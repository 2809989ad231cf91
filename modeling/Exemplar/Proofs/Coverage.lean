import Exemplar.Proofs.Trace

/-!
# Events that a model covers

A model covers an event if there is nothing left in it to learn: the class is registered, and the
property is there, with a type if one is offered. Every event is covered once it has happened, a
model that grows goes on covering it, and a covered event that happens again leaves the model as it
is, whatever it may be warned of.
-/
namespace Exemplar

/-- The event has nothing to add to the model. -/
def Model.Covers (m : Model) : Event → Prop
  | .enter className => className ∈ m.names
  | .sample className key offered =>
    className ∈ m.names ∧ ∃ p, m.property? className key = some p ∧
      (offered.dataType ≠ .unknown → p.dataType ≠ .unknown)
  | .report _ => True

theorem Model.Covers.grows {m n : Model} {e : Event} (covers : m.Covers e) (grows : m.Grows n) :
    n.Covers e := by
  cases e with
  | enter className => exact grows.names.subset covers
  | sample className key offered =>
    obtain ⟨registered, p, hp, typed⟩ := covers
    obtain ⟨q, hq, settles⟩ := grows.property? hp
    refine ⟨grows.names.subset registered, q, hq, ?_⟩
    intro known
    rw [settles.eq_of_known (typed known)]
    exact typed known
  | report w => trivial

namespace Session

theorem covers_apply (s : Session) (e : Event) : (s.apply e).model.Covers e := by
  cases e with
  | enter className => exact s.model.mem_names_register className
  | sample className key offered =>
    refine ⟨?_, s.exists_property?_record className key offered⟩
    rw [apply, names_record]
    exact s.model.mem_names_register className
  | report w => trivial

/-- What has happened stays covered. -/
theorem covers_replay (s : Session) {events : List Event} {m : Model}
    (later : (s.replay events).model.Grows m) : ∀ e ∈ events, m.Covers e := by
  intro e he
  obtain ⟨before, rest, rfl⟩ := List.append_of_mem he
  rw [replay_append, replay_cons] at later
  have after := ((s.replay before).apply e).grows_replay rest
  exact ((s.replay before).covers_apply e).grows (after.model.trans later)

theorem model_apply (s : Session) {e : Event} (covers : s.model.Covers e) :
    (s.apply e).model = s.model := by
  cases e with
  | enter className => exact s.model.register_of_mem covers
  | sample className key offered =>
    obtain ⟨registered, p, hp, typed⟩ := covers
    have kept : (s.register className).model = s.model := s.model.register_of_mem registered
    rw [apply]
    refine record_cases s className key offered ?new ?same ?null ?filled ?conflict
    case new => intro absent; rw [hp] at absent; cases absent
    case same => intros; exact kept
    case null => intros; exact kept
    case filled =>
      intro q hq unknown known
      cases hp.symm.trans hq
      exact absurd unknown (typed known)
    case conflict => intros; exact kept
  | report w => rfl

/-- Covered events leave the model as it is. -/
theorem model_replay (s : Session) {events : List Event} (covers : ∀ e ∈ events, s.model.Covers e) :
    (s.replay events).model = s.model := by
  induction events generalizing s with
  | nil => rfl
  | cons e rest ih =>
    have first := s.model_apply (covers e List.mem_cons_self)
    rw [replay_cons, ih, first]
    rw [first]
    exact fun e he => covers e (List.mem_cons_of_mem _ he)

end Session

end Exemplar
