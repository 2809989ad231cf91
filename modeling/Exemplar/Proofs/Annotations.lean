import Exemplar.Proofs.Declared
import Exemplar.Proofs.Literals
import Mathlib.Data.List.Infix

/-!
# Keys in declarations

The declaration of a class has a line with the key of each property, in a string literal. A C# literal
stands for the key unless a separator ends the line within it: the control characters are escaped, but
the line separator and the paragraph separator are none.
-/
namespace Exemplar

namespace Target
open Declaration

/-- The string literals of the language. -/
def literals : Target → LiteralRules
  | rust => Rust.literals
  | csharp _ => CSharp.literals

/-- What stands before the literal in the line of a key. -/
def annotationStart : Target → String
  | rust => "    #[serde(rename = "
  | csharp _ => "    [JsonPropertyName("

/-- The key that a line gives: a literal after the start of an annotation, with the closing brackets
and nothing else behind it. -/
def keyOf? (target : Target) (line : String) : Option String :=
  match line.toList.dropPrefix? target.annotationStart.toList with
  | some ('"' :: quoted) =>
    match target.literals.read .nothing quoted with
    | some (key, [')', ']']) => some (String.ofList key)
    | _ => none
  | _ => none

theorem keyOf?_eq_none {target : Target} {line : String}
    (other : ¬ target.annotationStart.toList <+: line.toList) : target.keyOf? line = none := by
  cases found : line.toList.dropPrefix? target.annotationStart.toList with
  | none => rw [keyOf?, found]
  | some rest =>
    obtain ⟨start, parts, same⟩ := List.dropPrefix?_eq_some_iff.mp found
    rw [beq_iff_eq] at same
    exact absurd ⟨rest, by rw [parts, same]⟩ other

/-- The key of an annotation is what its literal is read as. -/
theorem keyOf?_keyLine (target : Target) (quoted : List Char) {read : Option (List Char)}
    (h : target.literals.read .nothing (quoted ++ '"' :: [')', ']'])
      = read.map fun key => (key, [')', ']'])) :
    target.keyOf? (target.annotationStart ++ String.ofList ('"' :: quoted ++ ['"']) ++ ")]")
      = read.map String.ofList := by
  have parts : (target.annotationStart ++ String.ofList ('"' :: quoted ++ ['"']) ++ ")]").toList
      = target.annotationStart.toList ++ '"' :: (quoted ++ '"' :: [')', ']']) := by
    simp
  rw [keyOf?, parts, List.dropPrefix?_append_of_beq _ (beq_self_eq_true _)]
  simp only [h]
  cases read <;> rfl

end Target

theorem filterMap_intercalate {α β : Type} {f : α → Option β} {separator : α}
    (h : f separator = none) (parts : List (List α)) :
    ([separator].intercalate parts).filterMap f = parts.flatMap (List.filterMap f) := by
  induction parts with
  | nil => rfl
  | cons first rest ih =>
    cases rest with
    | nil => simp [List.intercalate]
    | cons second rest =>
      rw [List.intercalate_cons_cons, List.filterMap_append, List.filterMap_append, ih,
        List.flatMap_cons]
      simp [h]

namespace Declaration.CSharp

/-- A C# literal is read as its text, unless a separator stands in it. -/
theorem read_quoted (text rest : List Char) :
    literals.read .nothing (text.flatMap escapeChar ++ '"' :: rest)
      = (if text.any (· ∈ separators) then none else some text).map fun key => (key, rest) := by
  by_cases broken : text.any (· ∈ separators) = true
  · obtain ⟨c, hc, separates⟩ := List.any_eq_true.mp broken
    rw [read_literal_eq_none hc (by simpa using separates), if_pos broken, Option.map_none]
  · have plain : ∀ c ∈ text, c ∉ separators := by simpa using broken
    rw [read_literal plain, if_neg broken, Option.map_some]

theorem textOf?_literal (key : String) :
    literals.textOf? (literal key)
      = if key.toList.any (· ∈ separators) then none else some key := by
  simp only [LiteralRules.textOf?, literal, String.toList_ofList, List.cons_append, read_quoted]
  by_cases broken : key.toList.any (· ∈ separators) = true
  · rw [if_pos broken, if_pos broken, Option.map_none]
  · simp only [if_neg broken, Option.map_some, String.ofList_toList]

theorem textOf?_literal_overLines (key : String) :
    (literalsWithout []).textOf? (literal key) = some key := by
  simp only [LiteralRules.textOf?, literal, String.toList_ofList, List.cons_append,
    read_literal_overLines, String.ofList_toList]

theorem keyOf?_memberLine (space : Option String) (p : Property) :
    (Target.csharp space).keyOf? ("    [JsonPropertyName(" ++ literal p.key ++ ")]")
      = if p.key.toList.any (· ∈ separators) then none else some p.key := by
  refine ((Target.csharp space).keyOf?_keyLine _ (read_quoted p.key.toList _)).trans ?_
  split <;> simp

theorem filterMap_keyOf?_memberLines (space : Option String) (p : Property) (member : String) :
    (memberLines p member).filterMap (Target.csharp space).keyOf?
      = [p.key].filter (!·.toList.any (· ∈ separators)) := by
  have field : (Target.csharp space).keyOf? ("    public " ++ memberType p ++ " " ++ member
      ++ " \x7b get; set; \x7d" ++ startValue p) = none := by
    apply Target.keyOf?_eq_none
    simp [Target.annotationStart]
  rw [memberLines, List.filterMap_cons, List.filterMap_cons, keyOf?_memberLine, field]
  by_cases broken : p.key.toList.any (· ∈ separators) = true
  · simp [broken]
  · simp [broken]

/-- The keys that are read from the lines of a class. -/
theorem filterMap_keyOf?_lines (space : Option String) (c : Class) :
    (lines c).filterMap (Target.csharp space).keyOf?
      = (c.properties.values.map (·.key)).filter (!·.toList.any (· ∈ separators)) := by
  have blank : (Target.csharp space).keyOf? "" = none := by
    apply Target.keyOf?_eq_none
    simp [Target.annotationStart]
  have opening : ["public class " ++ Naming.csharp.typeName c.name, "\x7b"].filterMap
      (Target.csharp space).keyOf? = [] := by
    rw [List.filterMap_eq_nil_iff]
    simp only [List.forall_mem_cons]
    refine ⟨Target.keyOf?_eq_none ?_, Target.keyOf?_eq_none ?_, nofun⟩ <;>
      simp [Target.annotationStart]
  have closing : ["\x7d"].filterMap (Target.csharp space).keyOf? = [] := by
    rw [List.filterMap_eq_nil_iff]
    simp only [List.forall_mem_cons]
    exact ⟨Target.keyOf?_eq_none (by simp [Target.annotationStart]), nofun⟩
  have properties : (c.properties.values.zip (memberNames c)).map Prod.fst = c.properties.values := by
    refine List.map_fst_zip ?_
    simp [memberNames, Naming.distinct, Naming.length_distinctFrom]
  calc (lines c).filterMap (Target.csharp space).keyOf?
      = (c.properties.values.zip (memberNames c)).flatMap fun x =>
          [x.1.key].filter (!·.toList.any (· ∈ separators)) := by
        rw [lines, List.filterMap_append, List.filterMap_append, opening, closing, bodyLines,
          filterMap_intercalate blank, List.flatMap_map]
        simp only [filterMap_keyOf?_memberLines, List.nil_append, List.append_nil]
    _ = c.properties.values.flatMap fun p => [p.key].filter (!·.toList.any (· ∈ separators)) := by
        rw [← properties, List.flatMap_map, properties]
    _ = (c.properties.values.map (·.key)).filter (!·.toList.any (· ∈ separators)) := by
        rw [List.map_eq_flatMap, List.filter_flatMap]

end Declaration.CSharp

namespace Target
open Declaration

/-- What a C# compiler reads as the keys of a class: the keys of its properties in order, but for those
that a separator breaks. The literal of such a key is none, and every other literal stands for its
key; only the end of the line is in the way, for literals that may run over lines stand for theirs. -/
theorem csharp_keys_read_back (space : Option String) (m : Model) (c : Class) :
    ((csharp space).lines m c).filterMap (csharp space).keyOf?
      = (c.properties.values.map (·.key)).filter (!·.toList.any (· ∈ CSharp.separators)) ∧
    ∀ key : String,
      CSharp.literals.textOf? (CSharp.literal key)
        = (if key.toList.any (· ∈ CSharp.separators) then none else some key) ∧
      (CSharp.literalsWithout []).textOf? (CSharp.literal key) = some key := by
  refine ⟨?_, fun key => ⟨CSharp.textOf?_literal key, CSharp.textOf?_literal_overLines key⟩⟩
  exact CSharp.filterMap_keyOf?_lines space c

/-- A key with a line separator: its literal holds the separator as it is, and ends nowhere on its
line. -/
theorem csharp_key_breaks_line :
    let value : Json.Value := .object [("a\u2028b", .number (.integer 1))]
    let m := (Session.run Naming.singular ∅ [.observe "RootClass" value]).model
    let line := "    [JsonPropertyName(\"a\u2028b\")]"
    (m.classOf "RootClass").properties.keys = ["a\u2028b"] ∧
    line ∈ (csharp none).lines m (m.classOf "RootClass") ∧
    (csharp none).keyOf? line = none ∧
    CSharp.literals.textOf? (CSharp.literal "a\u2028b") = none := by
  decide +kernel

end Target

end Exemplar
