import Exemplar.Declaration.Rust
import Exemplar.Proofs.CycleSearch
import Exemplar.Proofs.Declared
import Mathlib.Data.Finset.Card
import Mathlib.Data.Finset.Dedup

/-!
# Structures of finite size

A structure needs the room of every field that is a structure itself. Each field is judged on its own,
by a search from its type; yet no cycle of such fields is left, for the first field of a cycle leads
back to its owner along the others, and so it would have been boxed. As only registered classes have
fields, every structure has a finite size.

The search looks classes up by the names under which they are registered and is asked for the owner by
the name that the class gives itself, so the two have to be the same, as they are in an inferred model.
Two class names with a single type identifier are two classes for the search and a single structure in
the declarations.
-/
namespace Exemplar
open Relation

section Acyclic
variable {α : Type} {r : α → α → Prop}

theorem not_transGen_of_acc {a : α} (h : Acc (fun y x => r x y) a) : ¬ TransGen r a a := by
  induction h with
  | intro x _ ih =>
    intro cycle
    obtain ⟨y, step, rest⟩ := TransGen.head'_iff.mp cycle
    exact ih y step (TransGen.tail' rest step)

/-- If only finitely many elements have successors, the chains from an element are finite as long as
none of the elements they reach is on a cycle. -/
theorem acc_of_acyclic (sources : List α) (listed : ∀ x y, r x y → x ∈ sources) {a : α}
    (acyclic : ∀ x, ReflTransGen r a x → ¬ TransGen r x x) : Acc (fun y x => r x y) a := by
  classical
  let below (x : α) : Finset α := sources.toFinset.filter (TransGen r x)
  induction size : (below a).card using Nat.strong_induction_on generalizing a with
  | _ n ih =>
    refine Acc.intro a fun b step => ?_
    by_cases source : b ∈ sources
    · have fewer : (below b).card < (below a).card := by
        apply Finset.card_lt_card
        refine ⟨fun c hc => ?_, fun contains => ?_⟩
        · have hc := Finset.mem_filter.mp hc
          exact Finset.mem_filter.mpr ⟨hc.1, .head step hc.2⟩
        · have own : b ∈ below a :=
            Finset.mem_filter.mpr ⟨List.mem_toFinset.mpr source, .single step⟩
          have cycle := (Finset.mem_filter.mp (contains own)).2
          exact acyclic b (.single step) cycle
      have acyclicBelow : ∀ x, ReflTransGen r b x → ¬ TransGen r x x :=
        fun x path => acyclic x (.head step path)
      exact ih (below b).card (size ▸ fewer) acyclicBelow rfl
    · exact Acc.intro b fun c later => absurd (listed b c later) source

theorem acc_iff_acyclic (sources : List α) (listed : ∀ x y, r x y → x ∈ sources) (a : α) :
    Acc (fun y x => r x y) a ↔ ∀ x, ReflTransGen r a x → ¬ TransGen r x x := by
  constructor
  · intro acc x path
    induction path using ReflTransGen.head_induction_on with
    | refl => exact not_transGen_of_acc acc
    | head step _ ih => exact ih (acc.inv step)
  · exact acc_of_acyclic sources listed

end Acyclic

namespace Declaration.Rust

/-- The structure of a class of the name `owner` has another structure as a field, neither in a vector
nor in a box. -/
def HasInline (m : Model) (owner other : String) : Prop :=
  ∃ c ∈ m.classes.values, c.name = owner ∧
    ∃ p ∈ c.properties.values, p.dataType = .named other ∧
      fieldType m c.name p = Naming.rust.typeName other

theorem wrapped_ne (before after text : String) (some : 0 < before.length) :
    before ++ text ++ after ≠ text := by
  intro same
  have length := congrArg String.length same
  simp only [String.length_append] at length
  omega

theorem fieldType_eq_typeName_iff (m : Model) (owner : String) {p : Property} {other : String}
    (named : p.dataType = .named other) :
    fieldType m owner p = Naming.rust.typeName other ↔
      p.isArray = false ∧ m.closesCycle other owner = false := by
  have vector := wrapped_ne "Vec<" ">" (Naming.rust.typeName other) (by decide)
  have boxed := wrapped_ne "Option<Box<" ">>" (Naming.rust.typeName other) (by decide)
  simp only [fieldType, baseType, named, DataType.className?]
  by_cases array : p.isArray = true
  · simp [array, vector]
  · by_cases cycle : m.closesCycle other owner = true
    · simp [array, cycle, boxed]
    · simp [array, cycle]

theorem hasInline_iff_closesCycle (m : Model) (owner other : String) :
    HasInline m owner other ↔
      m.closesCycle other owner = false ∧
        ∃ c ∈ m.classes.values, c.name = owner ∧ other ∈ c.parts := by
  constructor
  · rintro ⟨c, hc, rfl, p, hp, type, bare⟩
    rw [fieldType_eq_typeName_iff m c.name type] at bare
    exact ⟨bare.2, c, hc, rfl, (Model.mem_parts_iff c other).mpr ⟨p, hp, bare.1, type⟩⟩
  · rintro ⟨away, c, hc, rfl, part⟩
    obtain ⟨p, hp, single, type⟩ := (Model.mem_parts_iff c other).mp part
    exact ⟨c, hc, rfl, p, hp, type, (fieldType_eq_typeName_iff m c.name type).mpr ⟨single, away⟩⟩

section WellNamed
variable {m : Model} (named : m.WellNamed)
include named

/-- A part is a field of its own exactly if it does not lead back to its owner. -/
theorem hasInline_iff (owner other : String) :
    HasInline m owner other ↔ m.HasPart owner other ∧ ¬ m.Holds other owner := by
  have part : m.HasPart owner other ↔
      ∃ c ∈ m.classes.values, c.name = owner ∧ other ∈ c.parts := by
    refine exists_congr fun c => ?_
    rw [← named.mem_values_iff, and_assoc, Model.mem_parts_iff]
  rw [hasInline_iff_closesCycle, ← part, ← m.closesCycle_iff, Bool.not_eq_true]
  exact and_comm

theorem not_transGen_hasInline (name : String) : ¬ TransGen (HasInline m) name name := by
  intro cycle
  obtain ⟨other, first, rest⟩ := TransGen.head'_iff.mp cycle
  have back : m.Holds other name :=
    ReflTransGen.mono (fun a b step => ((hasInline_iff named a b).mp step).1) _ _ rest
  exact ((hasInline_iff named name other).mp first).2 back

end WellNamed

end Declaration.Rust

end Exemplar
