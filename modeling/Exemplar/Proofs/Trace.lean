import Exemplar.Proofs.Growth

/-!
# The trace of a walk

The walk over a document touches a session in three ways: it enters a class, offers a sample and
reports an array. The trace lists these events in order, as the walk meets them; which objects are
walked depends on the answers of the session, so the trace carries the session along. Replaying the
trace gives the session that the walk gives. What holds of every list of events therefore holds of
every walk, and needs no induction over values.
-/
namespace Exemplar
open Json (Value)

inductive Event where
  /-- An object is folded into a class. -/
  | enter (className : String)
  /-- A value is offered as a sample of a property. -/
  | sample (className key : String) (sample : Sample)
  /-- An array is reported, whatever its property. -/
  | report (warning : Warning)
  deriving DecidableEq

/-- The report on an array whose items differ in shape. -/
def ArrayShape.reports (shape : ArrayShape) (className key : String) : List Event :=
  if shape.mixed then [.report (.mixedArray className key)] else []

namespace Session

def apply (s : Session) : Event → Session
  | .enter className => s.register className
  | .sample className key sample => (s.record className key sample).1
  | .report warning => s.warn warning

def replay (s : Session) (events : List Event) : Session :=
  events.foldl apply s

@[simp] theorem replay_nil (s : Session) : s.replay [] = s := rfl

@[simp] theorem replay_cons (s : Session) (e : Event) (rest : List Event) :
    s.replay (e :: rest) = (s.apply e).replay rest := rfl

@[simp] theorem replay_append (s : Session) (a b : List Event) :
    s.replay (a ++ b) = (s.replay a).replay b :=
  List.foldl_append

theorem grows_apply (s : Session) (e : Event) : s.Grows (s.apply e) := by
  cases e with
  | enter className => exact s.grows_register className
  | sample className key sample => exact s.grows_record className key sample
  | report warning => exact s.grows_warn warning

theorem grows_replay (s : Session) (events : List Event) : s.Grows (s.replay events) := by
  induction events generalizing s with
  | nil => exact .refl s
  | cons e rest ih => exact (s.grows_apply e).trans (ih (s.apply e))

section Walk
variable (singular : String → String)

mutual
/-- The events of `foldMembers`. -/
def traceMembers (className : String) (s : Session) : List (String × Value) → List Event
  | [] => []
  | (key, value) :: rest =>
    traceValue className key s value ++
      traceMembers className (foldValue singular className key s value) rest
termination_by structural members => members

def traceValue (className key : String) (s : Session) : Value → List Event
  | .object members =>
    let inner := classNameFor key
    .sample className key ⟨.named inner, false⟩ ::
      match s.record className key ⟨.named inner, false⟩ with
      | (s, true) => .enter inner :: traceMembers inner (s.register inner) members
      | (_, false) => []
  | .array items =>
    let shape := ArrayShape.inspect items
    let s := if shape.mixed then s.warn (.mixedArray className key) else s
    shape.reports className key ++
      match shape.kind with
      | .empty => []
      | .scalar dataType => [.sample className key ⟨dataType, true⟩]
      | .objects =>
        let inner := classNameFor (singular key)
        .sample className key ⟨.named inner, true⟩ ::
          match s.record className key ⟨.named inner, true⟩ with
          | (s, true) => traceItems inner s items
          | (_, false) => []
      | .nested => [.report (.nestedArray className key)]
  | value => [.sample className key ⟨DataType.ofScalar value, false⟩]
termination_by structural value => value

def traceItems (className : String) (s : Session) : List Value → List Event
  | [] => []
  | item :: rest =>
    traceItem className s item ++ traceItems className (foldItem singular className s item) rest
termination_by structural items => items

def traceItem (className : String) (s : Session) : Value → List Event
  | .object members => .enter className :: traceMembers className (s.register className) members
  | _ => []
termination_by structural item => item
end

theorem replay_reports (s : Session) (shape : ArrayShape) (className key : String) :
    s.replay (shape.reports className key)
      = if shape.mixed then s.warn (.mixedArray className key) else s := by
  by_cases h : shape.mixed <;> simp [ArrayShape.reports, h, apply]

theorem replay_trace :
    Value.Hereditary
      (fun v => (∀ className key s, s.replay (traceValue singular className key s v)
          = foldValue singular className key s v) ∧
        ∀ className s, s.replay (traceItem singular className s v)
          = foldItem singular className s v)
      (fun members => ∀ className s, s.replay (traceMembers singular className s members)
        = foldMembers singular className s members)
      (fun items => ∀ className s, s.replay (traceItems singular className s items)
        = foldItems singular className s items) where
  scalar v hv := by
    cases v with
    | array _ => cases hv
    | object _ => cases hv
    | _ => exact ⟨fun _ _ _ => rfl, fun _ _ => rfl⟩
  object members ih := by
    constructor
    · intro className key s
      simp only [traceValue, foldValue, replay_cons, apply]
      rcases s.record className key ⟨.named (classNameFor key), false⟩ with ⟨t, answer⟩
      cases answer with
      | true => exact ih _ _
      | false => rfl
    · intro className s
      exact ih _ _
  array items ih := by
    refine ⟨?_, fun _ _ => rfl⟩
    intro className key s
    simp only [traceValue, foldValue, replay_append, replay_reports]
    cases (ArrayShape.inspect items).kind with
    | objects =>
      simp only [replay_cons, apply]
      rcases Session.record _ className key ⟨.named (classNameFor (singular key)), true⟩
        with ⟨t, answer⟩
      cases answer with
      | true => exact ih _ _
      | false => rfl
    | _ => rfl
  noMembers _ _ := rfl
  member key v rest hv hrest := by
    intro className s
    rw [traceMembers, replay_append, hv.1, hrest, foldMembers]
  noItems _ _ := rfl
  item v rest hv hrest := by
    intro className s
    rw [traceItems, replay_append, hv.2, hrest, foldItems]

theorem grows_foldMembers (className : String) (s : Session) (members : List (String × Value)) :
    s.Grows (foldMembers singular className s members) := by
  rw [← (replay_trace singular).members]
  exact s.grows_replay _

theorem grows_foldItems (className : String) (s : Session) (items : List Value) :
    s.Grows (foldItems singular className s items) := by
  rw [← (replay_trace singular).items]
  exact s.grows_replay _

end Walk

end Session

/-- A document under the name of its root. -/
structure Document where
  root : String
  value : Value

namespace Session
variable (singular : String → String)

/-- The session after documents, one after the other. -/
def observeAll (s : Session) (documents : List Document) : Session :=
  documents.foldl (fun s d => s.observe singular d.root d.value) s

def traceDocument (s : Session) (d : Document) : List Event :=
  match d.value with
  | .array items => traceItems singular (classNameFor d.root) s items
  | value => traceItem singular (classNameFor d.root) s value

def traceAll (s : Session) : List Document → List Event
  | [] => []
  | d :: rest => traceDocument singular s d ++ traceAll (s.observe singular d.root d.value) rest

@[simp] theorem observeAll_nil (s : Session) : s.observeAll singular [] = s := rfl

@[simp] theorem observeAll_cons (s : Session) (d : Document) (rest : List Document) :
    s.observeAll singular (d :: rest)
      = (s.observe singular d.root d.value).observeAll singular rest := rfl

@[simp] theorem observeAll_append (s : Session) (a b : List Document) :
    s.observeAll singular (a ++ b) = (s.observeAll singular a).observeAll singular b :=
  List.foldl_append

theorem replay_traceDocument (s : Session) (d : Document) :
    s.replay (traceDocument singular s d) = s.observe singular d.root d.value := by
  obtain ⟨root, v⟩ := d
  cases v with
  | array items => exact (replay_trace singular).items items _ s
  | _ => exact ((replay_trace singular).value _).2 _ s

/-- A session is the replay of its trace. -/
theorem replay_traceAll (s : Session) (documents : List Document) :
    s.replay (traceAll singular s documents) = s.observeAll singular documents := by
  induction documents generalizing s with
  | nil => rfl
  | cons d rest ih => rw [traceAll, replay_append, replay_traceDocument, ih, observeAll_cons]

theorem grows_observeAll (s : Session) (documents : List Document) :
    s.Grows (s.observeAll singular documents) := by
  rw [← replay_traceAll]
  exact s.grows_replay _

end Session

end Exemplar
