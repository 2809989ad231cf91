import Exemplar.Proofs.Declared
import Exemplar.Proofs.Escaping
import Exemplar.Proofs.PascalCase

/-!
# Types that a declaration may hide

A Rust file uses types that it does not declare. A class with the identifier of one of them would hide
it, so such an identifier gets an underscore, but two are left out: those of integers and of truth
values, which begin with a small letter. A spelling in Pascal case begins with a capital if it begins
with a letter, so nothing but a sign in front of the letters brings the two about.
-/
namespace Exemplar

namespace Declaration.Rust

/-- The types that a file uses and does not declare: those of members, and the two that it imports. -/
def builtinTypes : List String :=
  ["String", "i64", "bool", "Vec", "Option", "Box", "Serialize", "Deserialize"]

theorem baseType_mem_builtinTypes {dataType : DataType} (noClass : dataType.className? = none) :
    baseType dataType ∈ builtinTypes := by
  cases dataType with
  | named className => cases noClass
  | _ => decide

theorem mem_builtinTypes_iff {name : String} :
    name ∈ builtinTypes ↔ name ∈ Naming.rust.usedTypes ∨ name = "i64" ∨ name = "bool" := by
  simp only [builtinTypes, Naming.rust, List.mem_cons, List.not_mem_nil, or_false]
  tauto

end Declaration.Rust

namespace Naming
open Unicode Declaration.Rust

theorem append_underscore_notMem_builtinTypes (name : String) : name ++ "_" ∉ builtinTypes := by
  have none : ∀ builtin ∈ builtinTypes, '_' ∉ builtin.toList := by decide
  intro member
  exact none _ member (by simp)

/-- Neither a mark nor an underscore spells a type that the file uses. -/
theorem escape_notMem_builtinTypes {word : String} (reserved : word ∈ rust.reservedWords) :
    rust.escape word ∉ builtinTypes := by
  have plain : ∀ builtin ∈ builtinTypes, ¬ rawMark.IsOn builtin := by decide
  rcases rust_escapesBy.escape word reserved with marked | underscored
  · rw [marked]
    exact fun member => plain _ member (rawMark.isOn_marked word.toList)
  · rw [underscored]
    exact append_underscore_notMem_builtinTypes word

theorem typeName_mem_builtinTypes_iff (name : String) :
    rust.typeName name ∈ builtinTypes ↔
      sanitize (pascalCase name) = "i64" ∨ sanitize (pascalCase name) = "bool" := by
  rw [Convention.typeName]
  generalize sanitize (pascalCase name) = spelling
  by_cases empty : spelling.isEmpty = true
  · rw [String.isEmpty_iff] at empty
    subst empty
    decide
  · by_cases used : spelling ∈ rust.usedTypes
    · have other : ∀ type ∈ rust.usedTypes, ¬ (type = "i64" ∨ type = "bool") := by decide
      simp only [empty, used, if_true, Bool.false_eq_true, if_false]
      exact iff_of_false (append_underscore_notMem_builtinTypes spelling) (other spelling used)
    · simp only [empty, used, Bool.false_eq_true, if_false]
      by_cases reserved : spelling ∈ rust.reservedWords
      · have other : ∀ word ∈ rust.reservedWords, ¬ (word = "i64" ∨ word = "bool") := by
          decide
        rw [unreserved_of_mem reserved]
        exact iff_of_false (escape_notMem_builtinTypes reserved) (other spelling reserved)
      · rw [unreserved_of_notMem reserved, mem_builtinTypes_iff]
        exact or_iff_right used

/-- An identifier begins with the first character of its text, if that is kept, or an underscore. -/
theorem head?_sanitizeChars {c : Char} {rest : List Char} (part : isIdentifierPart c = true) :
    (sanitizeChars (c :: rest)).head? = some (if isAsciiDigit c then '_' else c) := by
  rw [sanitizeChars, List.filter_cons_of_pos part]
  by_cases digit : isAsciiDigit c = true
  · simp [digit]
  · simp [digit]

/-- A spelling in Pascal case whose identifier begins with a small letter begins with a sign. -/
theorem exists_sign_of_head? {name : String} (small : Char) (letter : small ≠ '_')
    (moved : upper small ≠ [small])
    (head : (sanitize (pascalCase name)).toList.head? = some small) :
    ∃ sign rest, (pascalCase name).toList = sign :: rest ∧ isIdentifierPart sign = false := by
  rw [sanitize, String.toList_ofList] at head
  cases chars : (pascalCase name).toList with
  | nil =>
    rw [chars] at head
    cases head
  | cons first rest =>
    refine ⟨first, rest, rfl, ?_⟩
    by_contra kept
    rw [Bool.not_eq_false] at kept
    have capital : upper first = [first] :=
      (isPascal_pascalCase name).capitalized first (by rw [chars, List.head?_cons])
    rw [chars, head?_sanitizeChars kept, Option.some.injEq] at head
    split at head
    · exact letter head.symm
    · exact moved (head ▸ capital)

end Naming

namespace Target
open Declaration.Rust

/-- The type identifier of a class is none of the types that the file imports or uses for texts, arrays
and boxes. It is that of integers or truth values exactly if nothing else is left of the spelling of the
class, which then begins with a sign that identifiers lack. -/
theorem typeName_hides_iff (className : String) :
    (∀ dataType : DataType, dataType.className? = none → baseType dataType ∈ builtinTypes) ∧
    rust.typeName className ∉ Naming.rust.usedTypes ∧
    (rust.typeName className ∈ builtinTypes ↔
      Naming.sanitize (Naming.pascalCase className) = "i64" ∨
      Naming.sanitize (Naming.pascalCase className) = "bool") ∧
    (rust.typeName className ∈ builtinTypes →
      ∃ sign rest, (Naming.pascalCase className).toList = sign :: rest ∧
        Naming.isIdentifierPart sign = false) := by
  have hides := Naming.typeName_mem_builtinTypes_iff className
  refine ⟨fun _ => baseType_mem_builtinTypes, ?_, hides, ?_⟩
  · intro used
    rcases hides.mp (mem_builtinTypes_iff.mpr (.inl used)) with integer | truth
    · have own : rust.typeName className = "i64" := by
        rw [typeName, Naming.Convention.typeName, integer]
        decide
      exact absurd (own ▸ used) (by decide)
    · have own : rust.typeName className = "bool" := by
        rw [typeName, Naming.Convention.typeName, truth]
        decide
      exact absurd (own ▸ used) (by decide)
  · intro hidden
    rcases hides.mp hidden with integer | truth
    · exact Naming.exists_sign_of_head? 'i' (by decide) (by decide)
        (by rw [integer]; rfl)
    · exact Naming.exists_sign_of_head? 'b' (by decide) (by decide)
        (by rw [truth]; rfl)

/-- Names of types as keys, and one of them with a sign in front. -/
theorem typeName_hides_iff_integer :
    rust.typeName "string" = "String_" ∧ rust.typeName "i64" = "I64" ∧
    rust.typeName "$i64" ∈ builtinTypes ∧
    ∃ sign rest, (Naming.pascalCase "$i64").toList = sign :: rest ∧
      Naming.isIdentifierPart sign = false := by
  obtain ⟨_, _, hides, sign⟩ := typeName_hides_iff "$i64"
  have hidden : rust.typeName "$i64" ∈ builtinTypes := hides.mpr (.inl (by decide +kernel))
  exact ⟨by decide +kernel, by decide +kernel, hidden, sign hidden⟩

/-- A key with a sign before the name of a type gives a class that hides the type: its own member has
the class for a truth value. -/
theorem typeName_hides_bool :
    let d : Document := ⟨"RootClass", .object [("$bool", .object [("a", .bool true)])]⟩
    let m := (Session.observeAll Naming.singular ∅ [d]).model
    m.names = ["RootClass", "$bool"] ∧ rust.typeName "$bool" = "bool" ∧
    m.property? "$bool" "a" = some ⟨"a", "A", .bool, false⟩ ∧
    rust.lines m (m.classOf "$bool") =
      ["#[derive(Debug, Clone, Default, PartialEq, Serialize, Deserialize)]", "#[serde(default)]",
        "pub struct bool \x7b", "    #[serde(rename = \"a\")]", "    pub a: bool,", "\x7d"] := by
  decide +kernel

end Target

end Exemplar
