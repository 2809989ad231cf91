import Exemplar.Proofs.Shape
import Exemplar.Proofs.Visit
import Mathlib.Data.List.Forall2
import Mathlib.Data.List.Perm.Basic

/-!
# Rearranged documents

Documents that come in another order, and objects whose members do, at any depth. Items of arrays keep
their places. A walk guided by a fixed model meets the same events on them, in another order.
-/
namespace Exemplar

namespace Json

mutual
/-- The second value is the first with the members of its objects in any order, at any depth. -/
inductive Value.Rearranged : Value → Value → Prop where
  | scalar {v : Value} (h : v.isScalar = true) : Value.Rearranged v v
  | array {items others : List Value} (each : List.Forall₂ Value.Rearranged items others) :
      Value.Rearranged (.array items) (.array others)
  | object {members inPlace others : List (String × Value)}
      (each : MembersRearranged members inPlace) (perm : inPlace.Perm others) :
      Value.Rearranged (.object members) (.object others)

/-- The same keys in the same order, with rearranged values. -/
inductive MembersRearranged : List (String × Value) → List (String × Value) → Prop where
  | nil : MembersRearranged [] []
  | cons {key : String} {v w : Value} {members others : List (String × Value)}
      (value : Value.Rearranged v w)
      (rest : MembersRearranged members others) :
      MembersRearranged ((key, v) :: members) ((key, w) :: others)
end

end Json

open Json (Value MembersRearranged)

def Document.Rearranged (d e : Document) : Prop :=
  d.root = e.root ∧ d.value.Rearranged e.value

/-- The second documents are the first ones in any order, each of them rearranged. -/
def Rearrangement (documents others : List Document) : Prop :=
  ∃ shuffled, documents.Perm shuffled ∧ List.Forall₂ Document.Rearranged shuffled others

namespace Json.Value.Rearranged
variable {v w : Value}

theorem isNull_eq (h : v.Rearranged w) : v.isNull = w.isNull := by
  cases h <;> rfl

theorem ofItem_eq (h : v.Rearranged w) : ItemShape.ofItem v = ItemShape.ofItem w := by
  cases h <;> rfl

theorem itemShapes_eq {items others : List Value} (each : List.Forall₂ Rearranged items others) :
    itemShapes items = itemShapes others := by
  induction each with
  | nil => rfl
  | @cons v w items others h _ ih =>
    rw [itemShapes, itemShapes] at ih ⊢
    cases hv : v.isNull with
    | true =>
      have hw : w.isNull = true := h.isNull_eq ▸ hv
      simpa [hv, hw] using ih
    | false =>
      have hw : w.isNull = false := h.isNull_eq ▸ hv
      simp [hv, hw, h.ofItem_eq, ih]

end Json.Value.Rearranged

section Visit
variable (singular : String → String) (m : Model)

theorem visitMembers_eq_flatMap (className : String) (members : List (String × Value)) :
    visitMembers singular m className members
      = members.flatMap fun member => visitValue singular m className member.1 member.2 := by
  induction members with
  | nil => rfl
  | cons member rest ih => rw [visitMembers, ih, List.flatMap_cons]

theorem perm_visit :
    Value.Hereditary
      (fun v => ∀ w, v.Rearranged w →
        (∀ className key,
          (visitValue singular m className key v).Perm (visitValue singular m className key w)) ∧
        ∀ className, (visitItem singular m className v).Perm (visitItem singular m className w))
      (fun members => ∀ others, MembersRearranged members others → ∀ className,
          (visitMembers singular m className members).Perm (visitMembers singular m className others))
      (fun items => ∀ others, List.Forall₂ Value.Rearranged items others →
        ∀ className,
          (visitItems singular m className items).Perm (visitItems singular m className others)) where
  scalar v hv := by
    intro w h
    cases h with
    | scalar => exact ⟨fun _ _ => .refl _, fun _ => .refl _⟩
    | array => cases hv
    | object => cases hv
  object members ih := by
    intro w h
    cases h with
    | scalar hs => cases hs
    | @object _ inPlace others each perm =>
      have inside (className : String) : (visitMembers singular m className members).Perm
          (visitMembers singular m className others) := by
        refine (ih inPlace each className).trans ?_
        rw [visitMembers_eq_flatMap, visitMembers_eq_flatMap]
        exact perm.flatMap_right _
      constructor
      · intro className key
        rw [visitValue, visitValue]
        split
        · exact ((inside _).cons _).cons _
        · exact .refl _
      · intro className
        exact (inside className).cons _
  array items ih := by
    intro w h
    cases h with
    | scalar hs => cases hs
    | @array _ others each =>
      refine ⟨?_, fun _ => .refl _⟩
      intro className key
      have shape : ArrayShape.inspect items = ArrayShape.inspect others :=
        ArrayShape.inspect_congr (Value.Rearranged.itemShapes_eq each)
      simp only [visitValue, ← shape]
      apply List.Perm.append_left
      cases (ArrayShape.inspect items).kind with
      | objects =>
        apply List.Perm.cons
        split
        · exact ih others each _
        · exact .refl _
      | _ => exact .refl _
  noMembers := by
    intro others h className
    cases h
    exact .refl _
  member key v rest hv hrest := by
    intro others h className
    cases h with
    | @cons _ _ w _ others hw each =>
      rw [visitMembers, visitMembers]
      exact ((hv w hw).1 className key).append (hrest others each className)
  noItems := by
    intro others h className
    cases h
    exact .refl _
  item v rest hv hrest := by
    intro others h className
    cases h with
    | @cons _ w _ others hw each =>
      rw [visitItems, visitItems]
      exact ((hv w hw).2 className).append (hrest others each className)

theorem perm_visitDocument {d e : Document} (h : d.Rearranged e) :
    (visitDocument singular m d).Perm (visitDocument singular m e) := by
  obtain ⟨root, v⟩ := d
  obtain ⟨_, w⟩ := e
  obtain ⟨rfl, h⟩ := h
  cases h with
  | scalar => exact .refl _
  | array each => exact (perm_visit singular m).items _ _ each _
  | object each perm => exact ((perm_visit singular m).value _ _ (.object each perm)).2 _

/-- The walk guided by a model meets the same events on rearranged documents. -/
theorem perm_visitAll {documents others : List Document} (h : Rearrangement documents others) :
    (visitAll singular m documents).Perm (visitAll singular m others) := by
  obtain ⟨shuffled, perm, each⟩ := h
  refine (perm.flatMap_right _).trans ?_
  clear perm
  induction each with
  | nil => exact .refl _
  | cons h _ ih => exact (perm_visitDocument singular m h).append ih

end Visit

end Exemplar
