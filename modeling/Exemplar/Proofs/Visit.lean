import Exemplar.Proofs.Trace

/-!
# Walks guided by a model

The same walk, but without a session: an object is walked if and only if a given model has exactly
the type that the object offers for its property. Guided by the model of its own end, or by any later
one, this walk has the very trace of the walk with a session. The answers that a session gives on the
way can thus be read off its end, and what a session learns becomes a matter of the values alone.
-/
namespace Exemplar
open Json (Value)

variable (singular : String → String)

mutual
/-- The events of an object's members, folded into a class. -/
def visitMembers (m : Model) (className : String) : List (String × Value) → List Event
  | [] => []
  | (key, value) :: rest => visitValue m className key value ++ visitMembers m className rest
termination_by structural members => members

/-- The events of the value of a key in a class. -/
def visitValue (m : Model) (className key : String) : Value → List Event
  | .object members =>
    let inner := classNameFor key
    .sample className key ⟨.named inner, false⟩ ::
      if m.Has className key ⟨.named inner, false⟩ then
        .enter inner :: visitMembers m inner members
      else []
  | .array items =>
    let shape := ArrayShape.inspect items
    shape.reports className key ++
      match shape.kind with
      | .empty => []
      | .scalar dataType => [.sample className key ⟨dataType, true⟩]
      | .objects =>
        let inner := classNameFor (singular key)
        .sample className key ⟨.named inner, true⟩ ::
          if m.Has className key ⟨.named inner, true⟩ then visitItems m inner items else []
      | .nested => [.report (.nestedArray className key)]
  | value => [.sample className key ⟨DataType.ofScalar value, false⟩]
termination_by structural value => value

/-- The events of the objects among the items of an array, folded into a class. -/
def visitItems (m : Model) (className : String) : List Value → List Event
  | [] => []
  | item :: rest => visitItem m className item ++ visitItems m className rest
termination_by structural items => items

def visitItem (m : Model) (className : String) : Value → List Event
  | .object members => .enter className :: visitMembers m className members
  | _ => []
termination_by structural item => item
end

def visitDocument (m : Model) (d : Document) : List Event :=
  match d.value with
  | .array items => visitItems singular m (classNameFor d.root) items
  | value => visitItem singular m (classNameFor d.root) value

def visitAll (m : Model) (documents : List Document) : List Event :=
  documents.flatMap (visitDocument singular m)

namespace Session

/-- Where a walk goes on after a sample of a class, it does so exactly if the type that was offered is
the one that every later model has. -/
theorem descent_eq (s : Session) (className key inner : String) (isArray : Bool) {m : Model}
    (walk : Session → Session) (events : Session → List Event) (guided : List Event)
    (grows : ∀ t : Session, t.Grows (walk t))
    (later : (match s.record className key ⟨.named inner, isArray⟩ with
      | (t, true) => walk t
      | (t, false) => t).model.Grows m)
    (same : ∀ t, (walk t).model.Grows m → events t = guided) :
    (match s.record className key ⟨.named inner, isArray⟩ with
      | (t, true) => events t
      | (_, false) => [])
      = if m.Has className key ⟨.named inner, isArray⟩ then guided else [] := by
  have settled (grown : (s.record className key ⟨.named inner, isArray⟩).1.model.Grows m) :
      (s.record className key ⟨.named inner, isArray⟩).2 = true
        ↔ m.Has className key ⟨.named inner, isArray⟩ :=
    s.record_answer_iff className key nofun grown
  cases hr : s.record className key ⟨.named inner, isArray⟩ with
  | mk t answer =>
    rw [hr] at later settled
    cases answer with
    | true =>
      have accepted := (settled ((grows t).model.trans later)).mp rfl
      rw [if_pos accepted]
      exact same t later
    | false =>
      have refused : ¬ m.Has className key ⟨.named inner, isArray⟩ := by
        intro has
        exact Bool.noConfusion ((settled later).mpr has)
      rw [if_neg refused]

theorem trace_eq_visit (m : Model) :
    Value.Hereditary
      (fun v =>
        (∀ className key s, (foldValue singular className key s v).model.Grows m →
          traceValue singular className key s v = visitValue singular m className key v) ∧
        ∀ className s, (foldItem singular className s v).model.Grows m →
          traceItem singular className s v = visitItem singular m className v)
      (fun members => ∀ className s, (foldMembers singular className s members).model.Grows m →
        traceMembers singular className s members = visitMembers singular m className members)
      (fun items => ∀ className s, (foldItems singular className s items).model.Grows m →
        traceItems singular className s items = visitItems singular m className items) where
  scalar v hv := by
    cases v with
    | array _ => cases hv
    | object _ => cases hv
    | _ => exact ⟨fun _ _ _ _ => rfl, fun _ _ _ => rfl⟩
  object members ih := by
    constructor
    · intro className key s later
      rw [foldValue] at later
      rw [traceValue, visitValue]
      refine congrArg (List.cons _) (descent_eq s className key _ false _ _ _ ?_ later ?_)
      · intro t
        exact (t.grows_register _).trans (grows_foldMembers singular _ _ members)
      · intro t ht
        rw [ih _ _ ht]
    · intro className s later
      rw [foldItem] at later
      rw [traceItem, visitItem, ih _ _ later]
  array items ih := by
    refine ⟨?_, fun _ _ _ => rfl⟩
    intro className key s later
    simp only [foldValue] at later
    simp only [traceValue, visitValue]
    cases hk : (ArrayShape.inspect items).kind with
    | objects =>
      rw [hk] at later
      refine congrArg _ (congrArg (List.cons _) (descent_eq _ className key _ true _ _ _ ?_ later ?_))
      · intro t
        exact grows_foldItems singular _ t items
      · intro t ht
        exact ih _ _ ht
    | _ => rfl
  noMembers _ _ _ := rfl
  member key v rest hv hrest := by
    intro className s later
    rw [foldMembers] at later
    have first := (grows_foldMembers singular className _ rest).model.trans later
    rw [traceMembers, visitMembers, hv.1 className key s first, hrest className _ later]
  noItems _ _ _ := rfl
  item v rest hv hrest := by
    intro className s later
    rw [foldItems] at later
    have first := (grows_foldItems singular className _ rest).model.trans later
    rw [traceItems, visitItems, hv.2 className s first, hrest className _ later]

theorem traceDocument_eq_visitDocument (s : Session) (d : Document) {m : Model}
    (later : (s.observe singular d.root d.value).model.Grows m) :
    traceDocument singular s d = visitDocument singular m d := by
  obtain ⟨root, v⟩ := d
  cases v with
  | array items => exact (trace_eq_visit singular m).items items _ s later
  | _ => exact ((trace_eq_visit singular m).value _).2 _ s later

/-- The trace of a session is that of the walk guided by its end. -/
theorem traceAll_eq_visitAll (s : Session) (documents : List Document) {m : Model}
    (later : (s.observeAll singular documents).model.Grows m) :
    traceAll singular s documents = visitAll singular m documents := by
  induction documents generalizing s with
  | nil => rfl
  | cons d rest ih =>
    rw [observeAll_cons] at later
    have first := (grows_observeAll singular _ rest).model.trans later
    rw [traceAll, traceDocument_eq_visitDocument singular s d first, ih _ later]
    rfl

/-- A session is the replay of the walk guided by its end. -/
theorem observeAll_eq_replay (s : Session) (documents : List Document) {m : Model}
    (later : (s.observeAll singular documents).model.Grows m) :
    s.observeAll singular documents = s.replay (visitAll singular m documents) := by
  rw [← traceAll_eq_visitAll singular s documents later, replay_traceAll]

end Session

end Exemplar
