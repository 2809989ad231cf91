import Exemplar.Command.Run
import Exemplar.Proofs.Shape
import Mathlib.Data.List.Forall2

/-!
# Documents of one shape

What is learnt from a document depends on its shape: the keys of its objects, the kinds of its scalars
and the items of its arrays that are not null. The skeleton of a value is what its shape leaves of it,
and a walk over the skeleton does what the walk over the value does. So values of one shape have the
same effect on any session, and what is made of them is the same text.
-/
namespace Exemplar

namespace Json

/-- The items of an array that are not null. -/
def knownItems (items : List Value) : List Value :=
  items.filter (!·.isNull)

mutual
/-- Values that differ in their scalars only, within the same kind, and in nulls among the items of
arrays. -/
inductive Value.SameShape : Value → Value → Prop where
  | null : Value.SameShape .null .null
  | bool {a b : Bool} : Value.SameShape (.bool a) (.bool b)
  | number {m n : Number} : Value.SameShape (.number m) (.number n)
  | string {s t : String} : Value.SameShape (.string s) (.string t)
  | array {items others : List Value}
      (each : List.Forall₂ Value.SameShape (knownItems items) (knownItems others)) :
      Value.SameShape (.array items) (.array others)
  | object {members others : List (String × Value)} (each : MembersSameShape members others) :
      Value.SameShape (.object members) (.object others)

/-- The same keys in the same order, with values of one shape. -/
inductive MembersSameShape : List (String × Value) → List (String × Value) → Prop where
  | nil : MembersSameShape [] []
  | cons {key : String} {v w : Value} {members others : List (String × Value)}
      (value : Value.SameShape v w) (rest : MembersSameShape members others) :
      MembersSameShape ((key, v) :: members) ((key, w) :: others)
end

namespace Value

mutual
/-- The value with one scalar of each kind, and without nulls in its arrays. -/
def skeleton : Value → Value
  | null => null
  | bool _ => bool false
  | number _ => number (.integer 0)
  | string _ => string ""
  | array items => array (skeletonItems items)
  | object members => object (skeletonMembers members)
termination_by structural v => v

def skeletonItems : List Value → List Value
  | [] => []
  | v :: rest => if v.isNull then skeletonItems rest else skeleton v :: skeletonItems rest
termination_by structural items => items

def skeletonMembers : List (String × Value) → List (String × Value)
  | [] => []
  | (key, v) :: rest => (key, skeleton v) :: skeletonMembers rest
termination_by structural members => members
end

@[simp] theorem isNull_skeleton (v : Value) : v.skeleton.isNull = v.isNull := by
  cases v <;> rfl

theorem skeletonItems_eq_map (items : List Value) :
    skeletonItems items = (knownItems items).map skeleton := by
  induction items with
  | nil => rfl
  | cons v rest ih =>
    rw [skeletonItems, knownItems]
    by_cases null : v.isNull = true
    · rw [if_pos null, List.filter_cons_of_neg (by simp [null]), ih, knownItems]
    · rw [if_neg null, List.filter_cons_of_pos (by simpa using null), ih, knownItems, List.map_cons]

/-- Values have one shape exactly if they have one skeleton. -/
theorem sameShape_iff :
    Hereditary
      (fun v => ∀ w, v.SameShape w ↔ v.skeleton = w.skeleton)
      (fun members => ∀ others,
        MembersSameShape members others ↔ skeletonMembers members = skeletonMembers others)
      (fun items => ∀ others,
        List.Forall₂ SameShape (knownItems items) others ↔
          skeletonItems items = others.map skeleton) where
  scalar v hv w := by
    constructor
    · intro h
      cases h with
      | array => cases hv
      | object => cases hv
      | _ => rfl
    · intro h
      cases v with
      | array => cases hv
      | object => cases hv
      | _ =>
        cases w <;> cases h
        constructor
  object members ih w := by
    constructor
    · intro h
      cases h with
      | @object _ others each => rw [skeleton, skeleton, (ih others).mp each]
    · intro h
      cases w with
      | object others =>
        rw [skeleton, skeleton, object.injEq] at h
        exact .object ((ih others).mpr h)
      | _ => cases h
  array items ih w := by
    constructor
    · intro h
      cases h with
      | @array _ others each =>
        rw [skeleton, skeleton, (ih _).mp each, skeletonItems_eq_map others]
    · intro h
      cases w with
      | array others =>
        rw [skeleton, skeleton, array.injEq, skeletonItems_eq_map others] at h
        exact .array ((ih _).mpr h)
      | _ => cases h
  noMembers others := by
    constructor
    · rintro ⟨⟩
      rfl
    · intro h
      cases others with
      | nil => exact .nil
      | cons member rest => cases h
  member key v rest hv hrest others := by
    constructor
    · intro h
      cases h with
      | @cons _ _ w _ others value each =>
        rw [skeletonMembers, skeletonMembers, (hv w).mp value, (hrest others).mp each]
    · intro h
      cases others with
      | nil => cases h
      | cons member others =>
        rw [skeletonMembers, skeletonMembers, List.cons.injEq, Prod.mk.injEq] at h
        obtain ⟨⟨rfl, value⟩, each⟩ := h
        exact .cons ((hv _).mpr value) ((hrest others).mpr each)
  noItems others := by
    rw [skeletonItems, eq_comm, List.map_eq_nil_iff]
    exact List.forall₂_nil_left_iff
  item v rest hv hrest others := by
    rw [skeletonItems, knownItems]
    by_cases null : v.isNull = true
    · rw [if_pos null, List.filter_cons_of_neg (by simp [null])]
      exact hrest others
    · rw [if_neg null, List.filter_cons_of_pos (by simpa using null)]
      cases others with
      | nil => simp
      | cons w others =>
        rw [List.forall₂_cons, List.map_cons, List.cons.injEq, hv w, ← hrest others, knownItems]

end Value

end Json

open Json (Value)

theorem ItemShape.ofItem_skeleton (v : Value) : ofItem v.skeleton = ofItem v := by
  cases v <;> rfl

theorem itemShapes_skeletonItems (items : List Value) :
    itemShapes (Value.skeletonItems items) = itemShapes items := by
  induction items with
  | nil => rfl
  | cons v rest ih =>
    rw [itemShapes, itemShapes] at ih
    rw [itemShapes, itemShapes, Value.skeletonItems]
    by_cases null : v.isNull = true
    · rw [if_pos null, ih, List.filter_cons_of_neg (by simp [null])]
    · rw [if_neg null, List.filter_cons_of_pos (by simpa using null),
        List.filter_cons_of_pos (by simpa using null), List.map_cons, List.map_cons, ih,
        ItemShape.ofItem_skeleton]

theorem ArrayShape.inspect_skeletonItems (items : List Value) :
    inspect (Value.skeletonItems items) = inspect items :=
  inspect_congr (itemShapes_skeletonItems items)

namespace Session
variable (singular : String → String)

theorem foldItem_of_isNull (className : String) (s : Session) {v : Value} (h : v.isNull = true) :
    foldItem singular className s v = s := by
  cases v with
  | null => rfl
  | _ => cases h

/-- A walk over a skeleton does what the walk over the value does. -/
theorem fold_skeleton :
    Value.Hereditary
      (fun v =>
        (∀ className key s,
          foldValue singular className key s v.skeleton = foldValue singular className key s v) ∧
        ∀ className s,
          foldItem singular className s v.skeleton = foldItem singular className s v)
      (fun members => ∀ className s,
        foldMembers singular className s (Value.skeletonMembers members)
          = foldMembers singular className s members)
      (fun items => ∀ className s,
        foldItems singular className s (Value.skeletonItems items)
          = foldItems singular className s items) where
  scalar v hv := by
    cases v with
    | array _ => cases hv
    | object _ => cases hv
    | _ => exact ⟨fun _ _ _ => rfl, fun _ _ => rfl⟩
  object members ih := by
    constructor
    · intro className key s
      simp only [Value.skeleton, foldValue, ih]
    · intro className s
      exact ih _ _
  array items ih := by
    refine ⟨?_, fun _ _ => rfl⟩
    intro className key s
    simp only [Value.skeleton, foldValue, ArrayShape.inspect_skeletonItems, ih]
  noMembers _ _ := rfl
  member key v rest hv hrest := by
    intro className s
    rw [Value.skeletonMembers, foldMembers, hv.1, hrest, foldMembers]
  noItems _ _ := rfl
  item v rest hv hrest := by
    intro className s
    rw [Value.skeletonItems, foldItems]
    by_cases null : v.isNull = true
    · rw [if_pos null, hrest, foldItem_of_isNull singular className s null]
    · rw [if_neg null, foldItems, hv.2, hrest]

theorem observe_skeleton (s : Session) (root : String) (v : Value) :
    s.observe singular root v.skeleton = s.observe singular root v := by
  cases v with
  | array items => exact (fold_skeleton singular).items items _ s
  | _ => exact ((fold_skeleton singular).value _).2 _ s

theorem observe_congr (s : Session) (root : String) {v w : Value} (h : v.SameShape w) :
    s.observe singular root v = s.observe singular root w := by
  rw [← observe_skeleton, (Value.sameShape_iff.value v w).mp h, observe_skeleton]

end Session

theorem Model.ofValues_congr (root : String) {documents others : List Value}
    (each : List.Forall₂ Value.SameShape documents others) :
    ofValues root documents = ofValues root others := by
  have sessions (s : Session) :
      documents.foldl (fun s v => s.observe Naming.singular root v) s
        = others.foldl (fun s v => s.observe Naming.singular root v) s := by
    induction each generalizing s with
    | nil => rfl
    | cons h _ ih => rw [List.foldl_cons, List.foldl_cons, s.observe_congr _ root h, ih]
  rw [ofValues, ofValues, sessions]

theorem Command.Product.text_congr (product : Product) (rootType : String)
    {documents others : List Value} (each : List.Forall₂ Value.SameShape documents others) :
    product.text rootType documents = product.text rootType others := by
  have models : documents.map (fun document => (Model.ofValues rootType [document]).toJson)
      = others.map fun document => (Model.ofValues rootType [document]).toJson := by
    induction each with
    | nil => rfl
    | cons h _ ih =>
      rw [List.map_cons, List.map_cons, ih, Model.ofValues_congr rootType (.cons h .nil)]
  cases product with
  | declarations target => simp only [text, Model.ofValues_congr rootType each]
  | model perDocument => simp only [text, models, Model.ofValues_congr rootType each]

/-- Only the shape of the data matters. Values of one shape leave any session in the same state, that
of their common skeleton, in which no scalar of theirs is left; and documents that are pairwise of one
shape give the same declarations, the same models and the same failures. -/
theorem shape_suffices (singular : String → String) :
    (∀ (s : Session) root (v w : Value), v.SameShape w →
      s.observe singular root v = s.observe singular root w ∧
      s.observe singular root v = s.observe singular root v.skeleton) ∧
    ∀ (product : Command.Product) rootType documents others,
      List.Forall₂ Value.SameShape documents others →
        product.text rootType documents = product.text rootType others := by
  constructor
  · intro s root v w h
    exact ⟨s.observe_congr singular root h, (s.observe_skeleton singular root v).symm⟩
  · intro product rootType documents others each
    exact product.text_congr rootType each

/-- Other scalars, and nulls at other places of arrays, with a sample that both documents contradict. -/
theorem shape_suffices_rows :
    let v : Value := .object
      [("id", .number (.integer 7)), ("tags", .array [.null, .string "a", .null]),
        ("rows", .array [.object [("n", .bool true)], .string "b", .object [("n", .null)]])]
    let w : Value := .object
      [("id", .number (.integer 8)), ("tags", .array [.string "c"]),
        ("rows", .array [.object [("n", .bool false)], .null, .string "d", .object [("n", .null)]])]
    let s := Session.observe Naming.singular ∅ "order" (.object [("id", .string "x")])
    v ≠ w ∧ v.SameShape w ∧
    s.observe Naming.singular "order" v = s.observe Naming.singular "order" w ∧
    (s.observe Naming.singular "order" v).warnings
      = [.conflictingSample "Order" "id" "string" "int", .mixedArray "Order" "rows"] ∧
    List.Forall₂ Value.SameShape [v] [w] ∧
    (Command.Product.declarations .rust).text "order" [v]
      = (Command.Product.declarations .rust).text "order" [w] := by
  intro v w s
  have first : (Value.object [("n", .bool true)]).SameShape (.object [("n", .bool false)]) :=
    .object (.cons .bool .nil)
  have second : (Value.object [("n", .null)]).SameShape (.object [("n", .null)]) :=
    .object (.cons .null .nil)
  have same : v.SameShape w :=
    .object (.cons .number (.cons (.array (.cons .string .nil))
      (.cons (.array (.cons first (.cons .string (.cons second .nil)))) .nil)))
  have each : List.Forall₂ Value.SameShape [v] [w] := .cons same .nil
  obtain ⟨sessions, texts⟩ := shape_suffices Naming.singular
  exact ⟨by simp [v, w], same, (sessions s "order" v w same).1, by decide +kernel, each,
    texts _ _ _ _ each⟩

end Exemplar
