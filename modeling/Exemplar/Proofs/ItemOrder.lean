import Exemplar.Proofs.Shape

/-!
# The order of items

The items of an array are compared with the first of them that is not null, and an object decides on the
shape wherever it stands. Still, whether the array is mixed says something about all of its items alike:
two of them differ in shape. So neither the order of the items nor the nulls among them matter, and in
an array that is not mixed they do not matter to the shape either.
-/
namespace Exemplar
open Json (Value)

theorem Json.Value.isNull_iff {v : Value} : v.isNull = true ↔ v = .null := by
  cases v <;> simp [isNull]

theorem perm_itemShapes {items others : List Value} (h : others.Perm items) :
    (itemShapes others).Perm (itemShapes items) :=
  (h.filter _).map _

theorem itemShapes_replicate_append (nulls : Nat) (items : List Value) :
    itemShapes (List.replicate nulls .null ++ items) = itemShapes items := by
  simp [itemShapes, Value.isNull]

namespace ArrayShape

theorem kind_of_find? {items : List Value} {first : Value}
    (noObject : ∀ members, .object members ∉ items)
    (found : items.find? (!·.isNull) = some first) :
    (inspect items).kind = .ofItem first := by
  rw [← List.head?_filter, List.head?_eq_some_iff] at found
  obtain ⟨rest, known⟩ := found
  have shapes : itemShapes items = .ofItem first :: rest.map ItemShape.ofItem := by
    rw [itemShapes, known, List.map_cons]
  have noObjects : .objects ∉ itemShapes items := by
    intro h
    obtain ⟨v, hv, _, shape⟩ := mem_itemShapes.mp h
    obtain ⟨members, rfl⟩ := ItemShape.ofItem_eq_objects_iff.mp shape
    exact noObject members hv
  rw [inspect_of_cons shapes, if_neg (shapes ▸ noObjects)]

/-- An array is mixed if the shapes of two items differ; neither has to be the first. -/
theorem mixed_iff_differ {items : List Value} :
    (inspect items).mixed = true ↔ ∃ a ∈ itemShapes items, ∃ b ∈ itemShapes items, a ≠ b := by
  rw [mixed_iff]
  constructor
  · rintro ⟨shape, member, different⟩
    obtain ⟨first, rest, shapes⟩ := List.exists_cons_of_ne_nil (List.ne_nil_of_mem member)
    exact ⟨shape, member, _, kind_mem_of_cons shapes, different⟩
  · rintro ⟨a, ha, b, hb, different⟩
    by_cases own : a = (inspect items).kind
    · exact ⟨b, hb, fun same => different (own.trans same.symm)⟩
    · exact ⟨a, ha, own⟩

section SameShapes
variable {items others : List Value}
  (same : ∀ shape, shape ∈ itemShapes others ↔ shape ∈ itemShapes items)
include same

/-- It matters which shapes the items have, not in which order or how often. -/
theorem mixed_congr : (inspect others).mixed = (inspect items).mixed := by
  rw [Bool.eq_iff_iff, mixed_iff_differ, mixed_iff_differ]
  simp only [same]

theorem kind_congr (uniform : (inspect items).mixed = false) :
    (inspect others).kind = (inspect items).kind := by
  have uniformOthers : (inspect others).mixed = false := (mixed_congr same).trans uniform
  have kind_of {items : List Value} (uniform : (inspect items).mixed = false) {shape : ItemShape}
      (member : shape ∈ itemShapes items) : (inspect items).kind = shape := by
    obtain ⟨v, hv, known, rfl⟩ := mem_itemShapes.mp member
    exact (ofItem_eq_kind uniform hv known).symm
  cases shapes : itemShapes items with
  | nil =>
    have none : itemShapes others = [] := by
      rw [List.eq_nil_iff_forall_not_mem]
      intro shape h
      rw [same, shapes] at h
      cases h
    rw [inspect_of_nil shapes, inspect_of_nil none]
  | cons first rest =>
    have member : first ∈ itemShapes items := shapes ▸ List.mem_cons_self
    rw [kind_of uniform member, kind_of uniformOthers ((same first).mpr member)]

end SameShapes

/-- An array without items but nulls is empty, one with an object is one of objects, and any other has
the shape of the first item that is not null. It is mixed exactly if an item that is not null has
another shape than the array. Items in another order, with any number of nulls put among them, are mixed
or not as before, and have the same shape unless they are mixed. -/
theorem inspect_exact (items : List Value) :
    let shape := inspect items
    (shape.kind = .empty ↔ ∀ v ∈ items, v = .null) ∧
    (shape.kind = .objects ↔ ∃ members, .object members ∈ items) ∧
    ((∀ members, .object members ∉ items) → ∀ first, items.find? (!·.isNull) = some first →
      shape.kind = .ofItem first) ∧
    (shape.mixed = true ↔ ∃ v ∈ items, v ≠ .null ∧ .ofItem v ≠ shape.kind) ∧
    ∀ nulls others, others.Perm (List.replicate nulls .null ++ items) →
      (inspect others).mixed = shape.mixed ∧
      (shape.mixed = false → (inspect others).kind = shape.kind) := by
  intro shape
  refine ⟨?_, kind_eq_objects_iff, fun noObject first => kind_of_find? noObject, ?_, ?_⟩
  · rw [kind_eq_empty_iff]
    simp only [Value.isNull_iff]
  · have known (v : Value) : v.isNull = false ↔ v ≠ .null := by
      rw [← Bool.not_eq_true, Value.isNull_iff]
    rw [mixed_iff]
    constructor
    · rintro ⟨_, member, different⟩
      obtain ⟨v, hv, notNull, rfl⟩ := mem_itemShapes.mp member
      exact ⟨v, hv, (known v).mp notNull, different⟩
    · rintro ⟨v, hv, notNull, different⟩
      exact ⟨_, mem_itemShapes.mpr ⟨v, hv, (known v).mpr notNull, rfl⟩, different⟩
  · intro nulls others permuted
    have same (shape : ItemShape) : shape ∈ itemShapes others ↔ shape ∈ itemShapes items := by
      rw [(perm_itemShapes permuted).mem_iff, itemShapes_replicate_append]
    exact ⟨mixed_congr same, kind_congr same⟩

/-- Two texts behind a null, in reverse with another null. -/
theorem inspect_exact_reversed :
    let items : List Value := [.null, .string "a", .string "b"]
    let others : List Value := [.string "b", .string "a", .null, .null]
    (∀ members, .object members ∉ items) ∧
    items.find? (!·.isNull) = some (.string "a") ∧
    (inspect items).kind = .ofItem (.string "a") ∧
    others.Perm (List.replicate 1 .null ++ items) ∧
    (inspect items).mixed = false ∧
    (inspect others).mixed = (inspect items).mixed ∧
    (inspect others).kind = (inspect items).kind := by
  intro items others
  have noObject : ∀ members, .object members ∉ items := by simp [items]
  have first : items.find? (!·.isNull) = some (.string "a") := rfl
  have permuted : others.Perm (List.replicate 1 .null ++ items) :=
    List.reverse_perm (List.replicate 1 Value.null ++ items)
  have uniform : (inspect items).mixed = false := by decide
  obtain ⟨_, _, governs, _, order⟩ := inspect_exact items
  obtain ⟨mixed, kind⟩ := order 1 others permuted
  exact ⟨noObject, first, governs noObject _ first, permuted, uniform, mixed, kind uniform⟩

/-- The shape of a mixed array does depend on the order. -/
example : (inspect [.string "a", .bool true]).kind ≠ (inspect [.bool true, .string "a"]).kind := by
  decide

end ArrayShape

end Exemplar
