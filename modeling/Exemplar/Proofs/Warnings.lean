import Exemplar.Proofs.Coverage
import Exemplar.Proofs.Visit

/-!
# The warnings of a walk

A session objects to a sample if its property has another type already. Types stay, so the objection
can be read off the model of the end, or any later one: the warnings of a session are a function of
its log and of such a model, and the order in which things became known plays no part.
-/
namespace Exemplar

/-- The warning tells of a sample that was refused. -/
def Warning.isConflict : Warning → Bool
  | conflictingSample .. => true
  | _ => false

/-- The warnings of an event, judged by a model. -/
def Event.warnings (m : Model) : Event → List Warning
  | .enter _ => []
  | .sample className key offered => m.objections className key offered
  | .report warning => [warning]

/-- Every sample with a type has the very type of its property. -/
def Model.Accepts (m : Model) (events : List Event) : Prop :=
  ∀ className key offered, .sample className key offered ∈ events → offered.dataType ≠ .unknown →
    m.Has className key offered

namespace Model
variable (m : Model) {className key : String} {sample : Sample}

theorem Accepts.subset {a b : List Event} (accepts : m.Accepts b) (h : a ⊆ b) : m.Accepts a :=
  fun className key offered he => accepts className key offered (h he)

theorem isConflict_of_mem_objections {w : Warning} (h : w ∈ m.objections className key sample) :
    w.isConflict = true := by
  rw [objections] at h
  cases hs : m.sample? className key with
  | none => rw [hs] at h; cases h
  | some kept =>
    rw [hs] at h
    dsimp only at h
    split at h
    · cases h
    · rw [List.mem_singleton.mp h]
      rfl

theorem objections_of_null (unknown : sample.dataType = .unknown) :
    m.objections className key sample = [] := by
  rw [objections]
  cases m.sample? className key with
  | none => rfl
  | some kept => simp [unknown]

theorem objections_of_has (has : m.Has className key sample) :
    m.objections className key sample = [] := by
  rw [Has] at has
  simp [objections, has]

/-- Nothing but the very type of a property goes without objection, once it has a type. -/
theorem has_of_objections_eq_nil {p : Property} (hp : m.property? className key = some p)
    (typed : p.dataType ≠ .unknown) (known : sample.dataType ≠ .unknown)
    (none : m.objections className key sample = []) : m.Has className key sample := by
  have typed' : p.sample.dataType ≠ .unknown := typed
  simpa [objections, Has, sample?, hp, typed', known] using none

end Model

namespace Session

/-- What a session objects to is what every later model objects to. -/
theorem objections_eq (s : Session) (className key : String) (sample : Sample) {m : Model}
    (later : (s.record className key sample).1.model.Grows m) :
    s.model.objections className key sample = m.objections className key sample := by
  by_cases hx : sample.dataType = .unknown
  · rw [Model.objections_of_null _ hx, Model.objections_of_null _ hx]
  have after := s.property?_record className key sample className key
  rw [if_pos ⟨rfl, rfl⟩] at after
  cases hp : s.model.property? className key with
  | none =>
    rw [hp] at after
    have has : m.Has className key sample := by
      rw [Model.Has, Model.sample?, later.property?_eq after hx]
      rfl
    rw [m.objections_of_has has]
    simp [Model.objections, Model.sample?, hp]
  | some p =>
    rw [hp] at after
    by_cases hu : p.dataType = .unknown
    · have has : m.Has className key sample := by
        rw [Model.Has, Model.sample?,
          later.property?_eq after (p.settle_dataType_ne_unknown hx), Option.map_some]
        exact congrArg some (p.sample_settle hu hx)
      rw [m.objections_of_has has]
      simp [Model.objections, Model.sample?, hp, Property.sample, hu]
    · rw [Option.elim_some, p.settle_known sample hu] at after
      simp [Model.objections, Model.sample?, hp, later.property?_eq after hu]

theorem warnings_apply (s : Session) (e : Event) {m : Model} (later : (s.apply e).model.Grows m) :
    (s.apply e).warnings = s.warnings ++ e.warnings m := by
  cases e with
  | enter className => exact (List.append_nil _).symm
  | sample className key sample =>
    rw [apply, warnings_record, s.objections_eq className key sample later]
    rfl
  | report w => rfl

/-- The warnings of a replay, judged by any later model. -/
theorem warnings_replay (s : Session) (events : List Event) {m : Model}
    (later : (s.replay events).model.Grows m) :
    (s.replay events).warnings = s.warnings ++ events.flatMap (·.warnings m) := by
  induction events generalizing s with
  | nil => simp
  | cons e rest ih =>
    rw [replay_cons] at later ⊢
    have first := ((s.apply e).grows_replay rest).model.trans later
    rw [ih _ later, s.warnings_apply e first, List.flatMap_cons, List.append_assoc]

theorem warnings_observeAll (singular : String → String) (s : Session) (documents : List Document)
    {m : Model} (later : (s.observeAll singular documents).model.Grows m) :
    (s.observeAll singular documents).warnings
      = s.warnings ++ (visitAll singular m documents).flatMap (·.warnings m) := by
  have replayed := observeAll_eq_replay singular s documents later
  rw [replayed] at later ⊢
  exact s.warnings_replay _ later

/-- Where no sample gave rise to a conflict, all of them were accepted. -/
theorem accepts_of_noConflict (s : Session) {events : List Event} {m : Model}
    (later : (s.replay events).model.Grows m)
    (noConflict : ∀ w ∈ (s.replay events).warnings, w.isConflict = false) : m.Accepts events := by
  intro className key offered he known
  obtain ⟨_, p, hp, typed⟩ := s.covers_replay later _ he
  refine Model.has_of_objections_eq_nil m hp (typed known) known ?_
  rw [List.eq_nil_iff_forall_not_mem]
  intro w hw
  have reported : w ∈ (s.replay events).warnings := by
    rw [s.warnings_replay events later]
    exact List.mem_append_right _ (List.mem_flatMap.mpr ⟨_, he, hw⟩)
  exact Bool.noConfusion
    ((Model.isConflict_of_mem_objections m hw).symm.trans (noConflict w reported))

end Session

end Exemplar
