import Exemplar.Proofs.Coverage
import Exemplar.Proofs.Shape

/-!
# Samples in batches

The objects of an array may come in one array or in two. As documents they are walked one after the
other in either case. Under a key the second array offers its type once more, to a session in which
the objects of the first may have changed anything, the class and the property themselves included.
But an offer with a type is settled when it is made: made again it gets the same answer and changes
nothing. The shape of each array is inspected on its own, but shapes only give rise to warnings, and
what is learnt does not depend on the warnings of a session.
-/
namespace Exemplar
open Json (Value)

/-- The sample that an array of objects offers for the property of its key. -/
def Sample.ofObjects (singular : String → String) (key : String) : Sample :=
  ⟨.named (classNameFor (singular key)), true⟩

namespace Session

/-- What a session learns from a sample does not depend on its warnings. -/
theorem record_congr {s t : Session} (same : s.model = t.model) (className key : String)
    (sample : Sample) :
    (s.record className key sample).1.model = (t.record className key sample).1.model ∧
      (s.record className key sample).2 = (t.record className key sample).2 := by
  obtain ⟨m, warnings⟩ := s
  obtain ⟨n, others⟩ := t
  cases same
  simp only [record, register]
  cases (m.register className).property? className key with
  | none => exact ⟨rfl, rfl⟩
  | some p =>
    dsimp only
    split
    · exact ⟨rfl, rfl⟩
    · split
      · exact ⟨rfl, rfl⟩
      · split <;> exact ⟨rfl, rfl⟩

/-- Where a walk goes on after a sample, it does so in both of two sessions that know the same. -/
theorem descent_congr {s t : Session} (same : s.model = t.model) (className key : String)
    (sample : Sample) {walk : Session → Session}
    (inside : ∀ s t : Session, s.model = t.model → (walk s).model = (walk t).model) :
    (match s.record className key sample with
      | (s, true) => walk s
      | (s, false) => s).model
      = (match t.record className key sample with
        | (t, true) => walk t
        | (t, false) => t).model := by
  obtain ⟨model, answer⟩ := record_congr same className key sample
  rcases hs : s.record className key sample with ⟨s', a⟩
  rcases ht : t.record className key sample with ⟨t', b⟩
  rw [hs, ht] at model answer
  cases answer
  cases a with
  | true => exact inside s' t' model
  | false => exact model

/-- A sample with a type that is offered again, in any later session, gets the same answer and
leaves the model as it is. -/
theorem record_again (s : Session) (className key : String) {sample : Sample}
    (known : sample.dataType ≠ .unknown) {u : Session}
    (later : (s.record className key sample).1.model.Grows u.model) :
    (u.record className key sample).1.model = u.model ∧
      (u.record className key sample).2 = (s.record className key sample).2 := by
  have covered : u.model.Covers (.sample className key sample) :=
    (s.covers_apply (.sample className key sample)).grows later
  have kept : (u.record className key sample).1.model = u.model := u.model_apply covered
  refine ⟨kept, ?_⟩
  have first := s.record_answer_iff className key known later
  have second := u.record_answer className key sample
  rw [kept] at second
  exact Bool.eq_iff_iff.mpr (second.trans first.symm)

section Walk
variable (singular : String → String)

theorem foldItems_append (className : String) (s : Session) (xs ys : List Value) :
    foldItems singular className s (xs ++ ys)
      = foldItems singular className (foldItems singular className s xs) ys := by
  induction xs generalizing s with
  | nil => rfl
  | cons item rest ih => exact ih (foldItem singular className s item)

theorem model_fold_congr :
    Value.Hereditary
      (fun v =>
        (∀ className key (s t : Session), s.model = t.model →
          (foldValue singular className key s v).model
            = (foldValue singular className key t v).model) ∧
        ∀ className (s t : Session), s.model = t.model →
          (foldItem singular className s v).model = (foldItem singular className t v).model)
      (fun members => ∀ className (s t : Session), s.model = t.model →
        (foldMembers singular className s members).model
          = (foldMembers singular className t members).model)
      (fun items => ∀ className (s t : Session), s.model = t.model →
        (foldItems singular className s items).model
          = (foldItems singular className t items).model) where
  scalar v hv := by
    cases v with
    | array _ => cases hv
    | object _ => cases hv
    | _ =>
      refine ⟨?_, fun _ _ _ same => same⟩
      intro className key s t same
      exact (record_congr same className key _).1
  object members ih := by
    have entry (className : String) (s t : Session) (same : s.model = t.model) :
        (foldMembers singular className (s.register className) members).model
          = (foldMembers singular className (t.register className) members).model :=
      ih className _ _ (congrArg (Model.register · className) same)
    refine ⟨?_, entry⟩
    intro className key s t same
    exact descent_congr same className key _ (entry (classNameFor key))
  array items ih := by
    refine ⟨?_, fun _ _ _ same => same⟩
    intro className key s t same
    have warned : (if (ArrayShape.inspect items).mixed then s.warn (.mixedArray className key)
        else s).model = (if (ArrayShape.inspect items).mixed then t.warn (.mixedArray className key)
        else t).model := by
      split <;> exact same
    simp only [foldValue]
    cases (ArrayShape.inspect items).kind with
    | empty => exact warned
    | scalar dataType => exact (record_congr warned className key _).1
    | objects => exact descent_congr warned className key _ (ih (classNameFor (singular key)))
    | nested => exact warned
  noMembers _ _ _ same := same
  member key v rest hv hrest := by
    intro className s t same
    exact hrest className _ _ (hv.1 className key s t same)
  noItems _ _ _ same := same
  item v rest hv hrest := by
    intro className s t same
    exact hrest className _ _ (hv.2 className s t same)

/-- An array with an object is an offer of their class, and the walk over its objects if that is
accepted. -/
theorem model_foldValue_objects (className key : String) (s : Session) {items : List Value}
    (object : ∃ members, .object members ∈ items) :
    (foldValue singular className key s (.array items)).model
      = if (s.record className key (.ofObjects singular key)).2 then
          (foldItems singular (classNameFor (singular key))
            (s.record className key (.ofObjects singular key)).1 items).model
        else (s.record className key (.ofObjects singular key)).1.model := by
  have unwarned : (foldValue singular className key s (.array items)).model
      = (match s.record className key (.ofObjects singular key) with
        | (s, true) => foldItems singular (classNameFor (singular key)) s items
        | (s, false) => s).model := by
    simp only [foldValue, ArrayShape.kind_eq_objects_iff.mpr object]
    -- a mixed array gives a warning before its offer
    refine descent_congr ?_ className key _ ((model_fold_congr singular).items items _)
    split <;> rfl
  rw [unwarned]
  rcases s.record className key (.ofObjects singular key) with ⟨t, answer⟩
  cases answer <;> rfl

theorem model_foldValue_append (className key : String) (s : Session) {xs ys : List Value}
    (objectX : ∃ members, .object members ∈ xs) (objectY : ∃ members, .object members ∈ ys) :
    (foldValue singular className key s (.array (xs ++ ys))).model
      = (foldValue singular className key
          (foldValue singular className key s (.array xs)) (.array ys)).model := by
  have objectBoth : ∃ members, .object members ∈ xs ++ ys :=
    objectX.imp fun _ member => List.mem_append_left ys member
  have known : (Sample.ofObjects singular key).dataType ≠ .unknown := nofun
  let t := (s.record className key (.ofObjects singular key)).1
  let u := foldValue singular className key s (.array xs)
  have first := model_foldValue_objects singular className key s objectX
  rw [model_foldValue_objects singular className key s objectBoth,
    model_foldValue_objects singular className key u objectY]
  -- the first offer settles the second one, whatever the walk over `xs` does to the class
  cases answer : (s.record className key (.ofObjects singular key)).2 with
  | true =>
    rw [answer, if_pos rfl] at first
    have later : t.model.Grows u.model := first ▸ (grows_foldItems singular _ t xs).model
    obtain ⟨kept, same⟩ := s.record_again className key known later
    rw [same, answer, if_pos rfl, if_pos rfl, foldItems_append]
    exact (model_fold_congr singular).items ys _ _ _ (first.symm.trans kept.symm)
  | false =>
    rw [answer, if_neg Bool.false_ne_true] at first
    have later : t.model.Grows u.model := first ▸ .refl _
    obtain ⟨kept, same⟩ := s.record_again className key known later
    rw [same, answer, if_neg Bool.false_ne_true, if_neg Bool.false_ne_true]
    exact first.symm.trans kept.symm

theorem model_foldItem_append (className key : String) (s : Session) {xs ys : List Value}
    (objectX : ∃ members, .object members ∈ xs) (objectY : ∃ members, .object members ∈ ys) :
    (foldItem singular className s (.object [(key, .array (xs ++ ys))])).model
      = (foldItem singular className
          (foldItem singular className s (.object [(key, .array xs)]))
          (.object [(key, .array ys)])).model := by
  let u := foldItem singular className s (.object [(key, .array xs)])
  have entered : className ∈ u.model.names :=
    (grows_foldMembers singular className (s.register className) _).model.names.subset
      (s.model.mem_names_register className)
  have registered : (u.register className).model = u.model := u.model.register_of_mem entered
  have split := model_foldValue_append singular className key (s.register className) objectX objectY
  exact split.trans (((model_fold_congr singular).value _).1 className key _ _ registered.symm)

end Walk

/-- It does not matter in which batches samples come. The items of a root array may be observed in
two arrays, and an object alone or as the only item of an array: the session is the same. The items
of an array under a key may be folded into a class in two arrays, as long as there are objects in
both: the model is the same, in any session, whatever the objects hold and whatever type the
property has. -/
theorem batches_agree (singular : String → String) (s : Session) :
    (∀ root xs ys,
      s.observe singular root (.array (xs ++ ys))
        = (s.observe singular root (.array xs)).observe singular root (.array ys)) ∧
    (∀ root members,
      s.observe singular root (.array [.object members])
        = s.observe singular root (.object members)) ∧
    ∀ className key xs ys, (∃ members, .object members ∈ xs) → (∃ members, .object members ∈ ys) →
      (foldItem singular className s (.object [(key, .array (xs ++ ys))])).model
        = (foldItem singular className
            (foldItem singular className s (.object [(key, .array xs)]))
            (.object [(key, .array ys)])).model := by
  refine ⟨?_, ?_, ?_⟩
  · intro root xs ys
    exact foldItems_append singular (classNameFor root) s xs ys
  · intro root members
    rfl
  · intro className key xs ys objectX objectY
    exact model_foldItem_append singular className key s objectX objectY

/-- Objects that hold their own class and key again, next to a text; once for a null that becomes an
array, and once for a text that stays. Each array gives its own warnings. -/
theorem batches_agree_nodes :
    let xs : List Value :=
      [.object [("nodes", .array [.object [("nodes", .null)]]), ("v", .null)], .string "x"]
    let ys : List Value := [.null, .object [("v", .bool true), ("nodes", .string "y")]]
    let fold (s : Session) (items : List Value) :=
      foldItem Naming.singular "Node" s (.object [("nodes", .array items)])
    let s := observe Naming.singular ∅ "node" (.object [("nodes", .null)])
    let t := observe Naming.singular ∅ "node" (.object [("nodes", .string "z")])
    (∃ members, Value.object members ∈ xs) ∧ (∃ members, Value.object members ∈ ys) ∧
    (fold s (xs ++ ys)).model = (fold (fold s xs) ys).model ∧
    (fold s xs).model ≠ s.model ∧ (fold s (xs ++ ys)).model ≠ (fold s xs).model ∧
    (fold t (xs ++ ys)).model = (fold (fold t xs) ys).model ∧ (fold t xs).model = t.model ∧
    (fold t (xs ++ ys)).warnings ≠ (fold (fold t xs) ys).warnings := by
  intro xs ys fold s t
  have objectX : ∃ members, Value.object members ∈ xs := ⟨_, .head _⟩
  have objectY : ∃ members, Value.object members ∈ ys := ⟨_, .tail _ (.head _)⟩
  refine ⟨objectX, objectY, ?_, by decide +kernel, by decide +kernel, ?_, by decide +kernel,
    by decide +kernel⟩
  · exact (batches_agree Naming.singular s).2.2 "Node" "nodes" xs ys objectX objectY
  · exact (batches_agree Naming.singular t).2.2 "Node" "nodes" xs ys objectX objectY

end Session

end Exemplar
