import Exemplar.Declaration.File
import Exemplar.Proofs.Escaping
import Exemplar.Proofs.Trace

/-!
# The identifiers of members

The members of a class have distinct names, but names that differ in the mark of an escaped word only
are one identifier to a compiler. That is so for marked names that are numbered, and for those that
are renamed because they are the name of their class: the word they spell is reserved no more, and
another member may spell it without the mark. In all other classes the members are told apart.
-/
namespace Exemplar
open Json (Value)

namespace Target

def mark : Target → Naming.Mark
  | rust => Naming.rawMark
  | csharp _ => Naming.verbatimMark

def reservedWords : Target → List String
  | rust => Naming.rust.reservedWords
  | csharp _ => Naming.csharp.reservedWords

/-- The names of the members of a class as they stand in its declaration. -/
def memberNames (target : Target) (c : Class) : List String :=
  match target with
  | rust => Declaration.Rust.fieldNames c
  | csharp _ => Declaration.CSharp.memberNames c

/-- The names of the members before namesakes are numbered. -/
def spellings (target : Target) (c : Class) : List String :=
  match target with
  | rust => c.properties.values.map fun p => Naming.rust.memberName p.name
  | csharp _ => c.properties.values.map
      (Declaration.CSharp.memberName (Naming.csharp.typeName c.name))

/-- Only reserved words are marked among the members, and none of them twice. -/
structure EscapesOnce (target : Target) (c : Class) : Prop where
  reserved : ∀ name ∈ target.spellings c, target.mark.IsOn name →
    target.mark.strip name ∈ target.reservedWords
  once : ((target.spellings c).filter (target.mark.IsOn ·)).Nodup

instance (target : Target) (c : Class) : Decidable (target.EscapesOnce c) :=
  decidable_of_iff
    ((∀ name ∈ target.spellings c, target.mark.IsOn name →
        target.mark.strip name ∈ target.reservedWords) ∧
      ((target.spellings c).filter (target.mark.IsOn ·)).Nodup)
    ⟨fun h => ⟨h.1, h.2⟩, fun h => ⟨h.reserved, h.once⟩⟩

theorem memberNames_eq (target : Target) (c : Class) :
    target.memberNames c = Naming.distinct (target.spellings c) := by
  cases target <;> rfl

/-- A member that is renamed is no reserved word, marked or not. -/
theorem spelt_csharpMemberName (typeName : String) (p : Property)
    (reserved : Naming.verbatimMark.IsOn (Declaration.CSharp.memberName typeName p) →
      Naming.verbatimMark.strip (Declaration.CSharp.memberName typeName p)
        ∈ Naming.csharp.reservedWords) :
    Naming.verbatimMark.Spelt Naming.csharp.reservedWords
      (Declaration.CSharp.memberName typeName p) := by
  have own := Naming.spelt_memberName Naming.csharp_escapesBy p.name
  rw [Declaration.CSharp.memberName] at reserved ⊢
  generalize Naming.csharp.memberName p.name = name at own reserved ⊢
  by_cases same : name = typeName
  · rw [if_pos same] at reserved ⊢
    cases own with
    | @marked word _ =>
      rw [Naming.verbatimMark.marked_append, Naming.Mark.strip_marked, String.ofList_toList] at reserved
      exact absurd (by simp) (Naming.csharp_noCapital _ (reserved (Naming.verbatimMark.isOn_marked _)))
    | plain unmarked _ =>
      refine .plain (Naming.verbatimMark.not_isOn_append unmarked
        (Naming.verbatimMark.not_isOn_of_parts Naming.parts_value)) ?_
      intro word
      exact Naming.csharp_noCapital _ word (by simp)
  · rw [if_neg same]
    exact own

theorem spelt_spellings (target : Target) (c : Class)
    (reserved : ∀ name ∈ target.spellings c, target.mark.IsOn name →
      target.mark.strip name ∈ target.reservedWords) :
    ∀ name ∈ target.spellings c, target.mark.Spelt target.reservedWords name := by
  intro name hn
  cases target with
  | rust =>
    obtain ⟨p, _, rfl⟩ := List.mem_map.mp hn
    exact Naming.spelt_memberName Naming.rust_escapesBy p.name
  | csharp space =>
    obtain ⟨p, _, rfl⟩ := List.mem_map.mp hn
    exact spelt_csharpMemberName _ p (reserved _ hn)

/-- The names of the members are distinct, and so are the identifiers that they spell, unless a marked
name has to be numbered or is made of a word that is not reserved. -/
theorem memberNames_identify (target : Target) (c : Class) :
    (target.memberNames c).Nodup ∧
    (target.EscapesOnce c → ((target.memberNames c).map target.mark.strip).Nodup) := by
  rw [memberNames_eq]
  refine ⟨Naming.nodup_distinctFrom [] _, ?_⟩
  intro ⟨reserved, once⟩
  have spelt := target.spelt_spellings c reserved
  cases target with
  | rust => exact Naming.nodup_strip_distinct Naming.rust_escapesBy spelt once
  | csharp space => exact Naming.nodup_strip_distinct Naming.csharp_escapesBy spelt once

/-- Words that one language reserves and words that collide, with nothing marked twice. -/
theorem memberNames_identify_keywords :
    let d : Document := ⟨"order", .object
      [("type", .null), ("Self", .null), ("fooBar", .null), ("foo_bar", .null), ("$class", .null)]⟩
    let c := (Session.observeAll Naming.singular ∅ [d]).model.classOf "Order"
    (rust.memberNames c = ["r#type", "self_", "foo_bar", "foo_bar2", "class"] ∧
      rust.EscapesOnce c ∧ ((rust.memberNames c).map rust.mark.strip).Nodup) ∧
    ((csharp none).memberNames c = ["Type", "Self", "FooBar", "FooBar2", "@class"] ∧
      (csharp none).EscapesOnce c ∧
      (((csharp none).memberNames c).map (csharp none).mark.strip).Nodup) := by
  intro d c
  have inRust : rust.EscapesOnce c := by decide +kernel
  have inCSharp : (csharp none).EscapesOnce c := by decide +kernel
  exact ⟨⟨by decide +kernel, inRust, (memberNames_identify rust c).2 inRust⟩,
    by decide +kernel, inCSharp, (memberNames_identify (csharp none) c).2 inCSharp⟩

/-- A reserved word that comes twice is numbered behind its mark, and a member that is renamed keeps
it, so the next member spells the same identifier. -/
theorem memberNames_collide :
    let d : Document := ⟨"RootClass", .object
      [("type", .number (.integer 1)), ("Type", .number (.integer 2)),
        ("type2", .number (.integer 3)),
        ("$class", .object
          [("$class", .number (.integer 1)), ("$classValue", .number (.integer 2))])]⟩
    let m := (Session.observeAll Naming.singular ∅ [d]).model
    m.names = ["RootClass", "$class"] ∧
    rust.memberNames (m.classOf "RootClass") = ["r#type", "r#type2", "type2", "class"] ∧
    ¬ ((rust.memberNames (m.classOf "RootClass")).map rust.mark.strip).Nodup ∧
    (csharp none).memberNames (m.classOf "$class") = ["@classValue", "classValue"] ∧
    ¬ (((csharp none).memberNames (m.classOf "$class")).map (csharp none).mark.strip).Nodup := by
  decide +kernel

end Target

end Exemplar
