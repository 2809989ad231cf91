import Exemplar.Inference.Shape

/-!
# Shapes of arrays

The shape of an array is decided by its items other than null. It is mixed exactly if one of them has
another shape than the one that is given, although the items are compared with the first of them.
-/
namespace Exemplar
open Json (Value)

/-- The shapes of the items that are not null. -/
def itemShapes (items : List Value) : List ItemShape :=
  (items.filter (!·.isNull)).map ItemShape.ofItem

theorem mem_itemShapes {items : List Value} {shape : ItemShape} :
    shape ∈ itemShapes items ↔ ∃ v ∈ items, v.isNull = false ∧ ItemShape.ofItem v = shape := by
  simp [itemShapes, and_assoc]

theorem itemShapes_eq_nil_iff {items : List Value} :
    itemShapes items = [] ↔ ∀ v ∈ items, v.isNull = true := by
  simp [itemShapes]

theorem ItemShape.ofItem_eq_objects_iff {v : Value} :
    ofItem v = .objects ↔ ∃ members, v = .object members := by
  cases v <;> simp [ofItem]

namespace ArrayShape

theorem inspect_congr {items others : List Value} (h : itemShapes items = itemShapes others) :
    inspect items = inspect others := by
  rw [itemShapes, itemShapes] at h
  rw [inspect, inspect, h]

theorem inspect_of_nil {items : List Value} (h : itemShapes items = []) :
    inspect items = ⟨.empty, false⟩ := by
  rw [itemShapes] at h
  simp [inspect, h]

theorem inspect_of_cons {items : List Value} {first : ItemShape} {rest : List ItemShape}
    (h : itemShapes items = first :: rest) :
    inspect items
      = ⟨if .objects ∈ first :: rest then .objects else first, rest.any (· ≠ first)⟩ := by
  rw [itemShapes] at h
  simp only [inspect, h]

theorem kind_mem_of_cons {items : List Value} {first : ItemShape} {rest : List ItemShape}
    (h : itemShapes items = first :: rest) : (inspect items).kind ∈ itemShapes items := by
  rw [inspect_of_cons h, h]
  dsimp only
  split
  · assumption
  · exact List.mem_cons_self

/-- The shape that is given is the shape of an item. -/
theorem kind_mem {items : List Value} (h : (inspect items).kind ≠ .empty) :
    (inspect items).kind ∈ itemShapes items := by
  cases hs : itemShapes items with
  | nil => exact absurd (by rw [inspect_of_nil hs]) h
  | cons first rest => exact hs ▸ kind_mem_of_cons hs

theorem mixed_iff {items : List Value} :
    (inspect items).mixed = true ↔ ∃ shape ∈ itemShapes items, shape ≠ (inspect items).kind := by
  cases hs : itemShapes items with
  | nil => simp [inspect_of_nil hs]
  | cons first rest =>
    rw [inspect_of_cons hs]
    by_cases objects : .objects ∈ first :: rest
    · rw [if_pos objects]
      by_cases hf : first = .objects
      · subst hf
        simp
      · have mixed : rest.any (· ≠ first) = true := by
          have later := (List.mem_cons.mp objects).resolve_left (Ne.symm hf)
          exact List.any_eq_true.mpr ⟨_, later, by simpa using Ne.symm hf⟩
        exact ⟨fun _ => ⟨first, List.mem_cons_self, hf⟩, fun _ => mixed⟩
    · rw [if_neg objects]
      simp

theorem kind_eq_empty_iff {items : List Value} :
    (inspect items).kind = .empty ↔ ∀ v ∈ items, v.isNull = true := by
  rw [← itemShapes_eq_nil_iff]
  constructor
  · intro h
    cases hs : itemShapes items with
    | nil => rfl
    | cons first rest =>
      have shape := kind_mem_of_cons hs
      rw [h] at shape
      obtain ⟨v, _, _, hv⟩ := mem_itemShapes.mp shape
      cases v <;> cases hv
  · intro h
    rw [inspect_of_nil h]

theorem kind_eq_objects_iff {items : List Value} :
    (inspect items).kind = .objects ↔ ∃ members, .object members ∈ items := by
  constructor
  · intro h
    have shape : (inspect items).kind ∈ itemShapes items := kind_mem (by simp [h])
    rw [h] at shape
    obtain ⟨v, hv, _, ho⟩ := mem_itemShapes.mp shape
    obtain ⟨members, rfl⟩ := ItemShape.ofItem_eq_objects_iff.mp ho
    exact ⟨members, hv⟩
  · rintro ⟨members, hm⟩
    have shape : .objects ∈ itemShapes items := mem_itemShapes.mpr ⟨_, hm, rfl, rfl⟩
    cases hs : itemShapes items with
    | nil => rw [hs] at shape; cases shape
    | cons first rest =>
      rw [hs] at shape
      rw [inspect_of_cons hs, if_pos shape]

theorem exists_item_of_kind_eq_scalar {items : List Value} {dataType : DataType}
    (h : (inspect items).kind = .scalar dataType) :
    ∃ v ∈ items, v.isNull = false ∧ ItemShape.ofItem v = .scalar dataType := by
  have shape : (inspect items).kind ∈ itemShapes items := kind_mem (by simp [h])
  rw [h] at shape
  exact mem_itemShapes.mp shape

/-- In an array that is not mixed, all items but nulls have the shape that is given. -/
theorem ofItem_eq_kind {items : List Value} (h : (inspect items).mixed = false) {v : Value}
    (hv : v ∈ items) (known : v.isNull = false) : ItemShape.ofItem v = (inspect items).kind := by
  refine Decidable.byContradiction fun different => ?_
  have mixed := mixed_iff.mpr ⟨_, mem_itemShapes.mpr ⟨v, hv, known, rfl⟩, different⟩
  rw [h] at mixed
  cases mixed

end ArrayShape

/-- Only nulls and containers have no primitive type. -/
theorem ItemShape.isPrimitive_of_scalar {v : Value} {dataType : DataType}
    (known : v.isNull = false) (h : ofItem v = .scalar dataType) : dataType.isPrimitive = true := by
  cases v with
  | null => cases known
  | array _ => cases h
  | object _ => cases h
  | _ => cases h; rfl

end Exemplar
