import Exemplar.Proofs.Walk
import Mathlib.Data.List.Induction

/-!
# The first sample wins

What a session has learnt is a function of the samples offered to it: its classes stand in the order
in which they were entered, the properties of a class in the order of their first samples, and the
type of a property is that of its first sample other than null. An object is folded into its class
exactly if its own sample is the one that has won in the end.
-/
namespace Exemplar
open Json (Value)

/-- The classes entered, each time they are. -/
def entered (events : List Event) : List String :=
  events.filterMap fun
    | .enter className => some className
    | _ => none

/-- The samples of the properties of a class, each with its key. -/
def samplesOf (className : String) (events : List Event) : List (String × Sample) :=
  events.filterMap fun
    | .sample owner key sample => if owner = className then some (key, sample) else none
    | _ => none

/-- The samples of one property. -/
def samplesAt (className key : String) (events : List Event) : List Sample :=
  events.filterMap fun
    | .sample owner other sample => if owner = className ∧ other = key then some sample else none
    | _ => none

/-- The first sample other than null; a null if there are only nulls. -/
def firstSample : List Sample → Option Sample
  | [] => none
  | samples => some ((samples.find? (·.dataType ≠ .unknown)).getD ⟨.unknown, false⟩)

/-- Each sample is one of a class that is known at first or entered before. -/
def SampledInside (known : List String) : List Event → Prop
  | [] => True
  | .enter className :: rest => SampledInside (known ++ [className]) rest
  | .sample className _ _ :: rest => className ∈ known ∧ SampledInside known rest
  | .report _ :: rest => SampledInside known rest

/-- Samples without a type are those of nulls. -/
def Event.Proper : Event → Prop
  | .sample _ _ offered => offered.dataType = .unknown → offered.isArray = false
  | _ => True

@[simp] theorem entered_append (a b : List Event) : entered (a ++ b) = entered a ++ entered b :=
  List.filterMap_append

@[simp] theorem samplesOf_append (className : String) (a b : List Event) :
    samplesOf className (a ++ b) = samplesOf className a ++ samplesOf className b :=
  List.filterMap_append

@[simp] theorem samplesAt_append (className key : String) (a b : List Event) :
    samplesAt className key (a ++ b) = samplesAt className key a ++ samplesAt className key b :=
  List.filterMap_append

theorem eraseDups_concat {α : Type} [DecidableEq α] (l : List α) (a : α) :
    (l ++ [a]).eraseDups = if a ∈ l then l.eraseDups else l.eraseDups ++ [a] := by
  rw [List.eraseDups_append]
  by_cases h : a ∈ l
  · have none : [a].removeAll l = [] := by simp [List.removeAll, h]
    simp [none, h]
  · have all : [a].removeAll l = [a] := by simp [List.removeAll, h]
    simp [all, h, List.eraseDups_cons]

theorem sampledInside_append (a b : List Event) (known : List String) :
    SampledInside known (a ++ b)
      ↔ SampledInside known a ∧ SampledInside (known ++ entered a) b := by
  induction a generalizing known with
  | nil => simp [SampledInside, entered]
  | cons e rest ih =>
    cases e with
    | enter className => simp [SampledInside, ih, entered]
    | sample className key sample => simp [SampledInside, ih, entered, and_assoc]
    | report w => simp [SampledInside, ih, entered]

theorem firstSample_concat (samples : List Sample) (x : Sample)
    (proper : x.dataType = .unknown → x.isArray = false) :
    firstSample (samples ++ [x])
      = some ((firstSample samples).elim x fun kept =>
          if kept.dataType = .unknown ∧ x.dataType ≠ .unknown then x else kept) := by
  have null (unknown : x.dataType = .unknown) : (⟨.unknown, false⟩ : Sample) = x := by
    cases x; simp_all
  cases samples with
  | nil => by_cases hx : x.dataType = .unknown <;> simp [firstSample, hx, null]
  | cons first rest =>
    simp only [firstSample, List.cons_append, Option.elim_some]
    rw [← List.cons_append, List.find?_append]
    cases hf : (first :: rest).find? (·.dataType ≠ .unknown) with
    | some kept =>
      have known : kept.dataType ≠ .unknown := by simpa using List.find?_some hf
      simp [known]
    | none => by_cases hx : x.dataType = .unknown <;> simp [hx]

theorem mem_of_firstSample {samples : List Sample} {x : Sample} (h : firstSample samples = some x)
    (known : x.dataType ≠ .unknown) : x ∈ samples := by
  cases samples with
  | nil => cases h
  | cons first rest =>
    rw [firstSample, Option.some.injEq] at h
    · cases hf : (first :: rest).find? (·.dataType ≠ .unknown) with
      | none => rw [hf] at h; exact absurd (h ▸ rfl) known
      | some y =>
        rw [hf] at h
        exact h ▸ List.mem_of_find?_eq_some hf
    · exact nofun

theorem mem_samplesAt {className key : String} {events : List Event} {x : Sample} :
    x ∈ samplesAt className key events ↔ .sample className key x ∈ events := by
  simp only [samplesAt, List.mem_filterMap]
  constructor
  · rintro ⟨e, he, hx⟩
    cases e with
    | sample owner other y =>
      dsimp only at hx
      split at hx
      · rename_i same
        obtain ⟨rfl, rfl⟩ := same
        cases hx
        exact he
      · cases hx
    | _ => cases hx
  · intro h
    exact ⟨_, h, by simp⟩

theorem Property.settle_ofSample (key : String) (kept x : Sample) :
    (Property.ofSample key kept).settle x
      = .ofSample key (if kept.dataType = .unknown ∧ x.dataType ≠ .unknown then x else kept) := by
  by_cases h : kept.dataType = .unknown ∧ x.dataType ≠ .unknown
  · simp [settle, ofSample, h]
  · rw [if_neg h]
    exact if_neg h

namespace Session

theorem names_replay {events : List Event} (inside : SampledInside [] events) :
    (replay ∅ events).model.names = (entered events).eraseDups := by
  induction events using List.reverseRecOn with
  | nil => rfl
  | append_singleton events e ih =>
    rw [sampledInside_append] at inside
    obtain ⟨before, last⟩ := inside
    rw [replay_append, replay_cons, replay_nil, entered_append]
    cases e with
    | enter className =>
      rw [show entered [.enter className] = [className] from rfl, eraseDups_concat]
      simp only [apply, register, Model.names_register, ih before, List.mem_eraseDups]
    | sample className key x =>
      have known : className ∈ (replay ∅ events).model.names := by
        rw [ih before, List.mem_eraseDups]
        simpa [SampledInside] using last
      rw [apply, names_record, Model.register_of_mem _ known, ih before]
      simp [entered]
    | report w =>
      rw [apply, warn, ih before]
      simp [entered]

theorem keys_replay (className : String) (events : List Event) :
    ((replay ∅ events).model.classOf className).properties.keys
      = ((samplesOf className events).map Prod.fst).eraseDups := by
  induction events using List.reverseRecOn with
  | nil => rfl
  | append_singleton events e ih =>
    rw [replay_append, replay_cons, replay_nil, samplesOf_append, List.map_append]
    cases e with
    | enter other => simpa [apply, register, samplesOf] using ih
    | sample owner key x =>
      rw [apply, classOf_record]
      by_cases h : className = owner
      · subst h
        rw [if_pos rfl, Class.keys_absorb, ih,
          show (samplesOf className [.sample className key x]).map Prod.fst = [key] by
            simp [samplesOf], eraseDups_concat]
        simp only [List.mem_eraseDups]
      · simp [h, Ne.symm h, ih, samplesOf]
    | report w => simpa [apply, warn, samplesOf] using ih

theorem property?_replay (className key : String) {events : List Event}
    (proper : ∀ e ∈ events, e.Proper) :
    (replay ∅ events).model.property? className key
      = (firstSample (samplesAt className key events)).map (.ofSample key) := by
  induction events using List.reverseRecOn with
  | nil => rfl
  | append_singleton events e ih =>
    have before := ih fun e he => proper e (List.mem_append_left _ he)
    rw [replay_append, replay_cons, replay_nil, samplesAt_append]
    cases e with
    | enter other =>
      rw [apply, register, Model.property?_eq, Model.classOf_register, ← Model.property?_eq, before]
      simp [samplesAt]
    | sample owner other x =>
      rw [apply, property?_record]
      by_cases h : className = owner ∧ key = other
      · obtain ⟨rfl, rfl⟩ := h
        rw [if_pos ⟨rfl, rfl⟩, before,
          show samplesAt className key [.sample className key x] = [x] by simp [samplesAt],
          firstSample_concat _ _ (proper (.sample className key x) (by simp))]
        cases firstSample (samplesAt className key events) with
        | none => rfl
        | some kept => exact congrArg some (Property.settle_ofSample key kept x)
      · have other : samplesAt className key [.sample owner other x] = [] := by
          simp only [samplesAt, List.filterMap_cons, List.filterMap_nil]
          rw [if_neg fun same => h ⟨same.1.symm, same.2.symm⟩]
        rw [if_neg h, before, other, List.append_nil]
    | report w =>
      rw [apply, warn, before]
      simp [samplesAt]

end Session

theorem sampledInside_walk {m : Model} {className : String} {events : List Event}
    (walk : Walk m className events) {known : List String} (inside : className ∈ known) :
    SampledInside known events := by
  induction walk generalizing known with
  | nil => trivial
  | append _ _ iha ihb =>
    rw [sampledInside_append]
    exact ⟨iha inside, ihb (List.mem_append_left _ inside)⟩
  | enter => trivial
  | report => trivial
  | null => exact ⟨inside, trivial⟩
  | scalar => exact ⟨inside, trivial⟩
  | refused => exact ⟨inside, trivial⟩
  | accepted _ _ ih => exact ⟨inside, ih (List.mem_append_right _ List.mem_cons_self)⟩

theorem proper_walk {m : Model} {className : String} {events : List Event}
    (walk : Walk m className events) : ∀ e ∈ events, e.Proper := by
  induction walk with
  | nil => exact nofun
  | append _ _ iha ihb =>
    intro e he
    exact (List.mem_append.mp he).elim (iha e) (ihb e)
  | enter => simp [Event.Proper]
  | report => simp [Event.Proper]
  | null => simp [Event.Proper]
  | scalar primitive =>
    intro e he
    rw [List.mem_singleton.mp he]
    rintro rfl
    cases primitive
  | refused => simp [Event.Proper]
  | accepted _ _ ih => simpa [Event.Proper] using ih

theorem sampledInside_objects {m : Model} {className : String} {events : List Event}
    (objects : WalkObjects m className events) (known : List String) :
    SampledInside known events := by
  rcases objects with rfl | ⟨rest, rfl, walk⟩
  · trivial
  · exact sampledInside_walk walk (List.mem_append_right _ List.mem_cons_self)

section Session
variable (singular : String → String) (documents : List Document)

/-- The log of a session that starts with nothing. -/
def sessionLog : List Event :=
  Session.traceAll singular ∅ documents

theorem sessionLog_eq_visitAll :
    sessionLog singular documents
      = visitAll singular (Session.observeAll singular ∅ documents).model documents :=
  Session.traceAll_eq_visitAll singular ∅ documents (.refl _)

theorem sampledInside_visitAll (m : Model) (known : List String) :
    SampledInside known (visitAll singular m documents) := by
  induction documents generalizing known with
  | nil => trivial
  | cons d rest ih =>
    rw [visitAll, List.flatMap_cons, sampledInside_append]
    exact ⟨sampledInside_objects (walkObjects_visitDocument singular m d) known, ih _⟩

theorem sampledInside_sessionLog : SampledInside [] (sessionLog singular documents) := by
  rw [sessionLog_eq_visitAll]
  exact sampledInside_visitAll singular documents _ []

theorem proper_sessionLog : ∀ e ∈ sessionLog singular documents, e.Proper := by
  rw [sessionLog_eq_visitAll]
  intro e he
  obtain ⟨d, _, he⟩ := List.mem_flatMap.mp he
  exact proper_walk (walkObjects_visitDocument singular _ d).walk e he

theorem replay_sessionLog :
    Session.replay ∅ (sessionLog singular documents) = Session.observeAll singular ∅ documents :=
  Session.replay_traceAll singular ∅ documents

theorem names_observeAll :
    (Session.observeAll singular ∅ documents).model.names
      = (entered (sessionLog singular documents)).eraseDups := by
  rw [← replay_sessionLog]
  exact Session.names_replay (sampledInside_sessionLog singular documents)

theorem property?_observeAll (className key : String) :
    (Session.observeAll singular ∅ documents).model.property? className key
      = (firstSample (samplesAt className key (sessionLog singular documents))).map
          (.ofSample key) := by
  rw [← replay_sessionLog]
  exact Session.property?_replay className key (proper_sessionLog singular documents)

end Session

/-- The model of documents is made of the samples that the walk offers. Its classes stand in the
order in which they were first entered. The properties of a class are the keys sampled in it, in the
order of their first samples, and the type of a property is its first sample other than null. An
offer with a type is accepted, at its moment, exactly if it is the type that the property has in the
end; so the walk is the one guided by the model of its end, which goes into an object exactly if the
property of the object ends with the object's own sample. -/
theorem first_sample_wins (singular : String → String) (documents : List Document) :
    let s := Session.observeAll singular ∅ documents
    let log := sessionLog singular documents
    s = Session.replay ∅ log ∧
    s.model.names = (entered log).eraseDups ∧
    (∀ className, (s.model.classOf className).properties.keys
      = ((samplesOf className log).map Prod.fst).eraseDups) ∧
    (∀ className key, s.model.property? className key
      = (firstSample (samplesAt className key log)).map (.ofSample key)) ∧
    (∀ before className key sample later, log = before ++ .sample className key sample :: later →
      sample.dataType ≠ .unknown →
        (((Session.replay ∅ before).record className key sample).2 = true
          ↔ s.model.Has className key sample)) ∧
    log = visitAll singular s.model documents := by
  intro s log
  have replayed : Session.replay ∅ log = s := replay_sessionLog singular documents
  refine ⟨replayed.symm, names_observeAll singular documents, ?_,
    property?_observeAll singular documents, ?_, sessionLog_eq_visitAll singular documents⟩
  · intro className
    rw [← replayed]
    exact Session.keys_replay className log
  · intro before className key sample later split known
    apply Session.record_answer_iff _ _ _ known
    rw [← replayed, split, Session.replay_append]
    exact (Session.grows_replay _ later).model

end Exemplar
