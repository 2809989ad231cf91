import Exemplar.Proofs.Annotations
import Exemplar.Proofs.Escaping
import Exemplar.Proofs.WellFormed
import Mathlib.Data.List.Forall2

/-!
# The lines of a struct

Nothing that a Rust declaration is made of has a line break in it: identifiers have none, numbers have
none, and the literal of a key escapes those of the key. So the text of a block has the lines it was
made of, two for each property, and the first of them gives the key of the property back.
-/
namespace Exemplar

/-- The lines of a text. What follows the last line break is a line as well, even if it is empty. -/
def textLines (text : String) : List String :=
  (text.toList.splitOn '\n').map String.ofList

def SingleLine (text : String) : Prop :=
  '\n' ∉ text.toList

instance (text : String) : Decidable (SingleLine text) :=
  inferInstanceAs (Decidable (_ ∉ _))

theorem SingleLine.append {a b : String} (ha : SingleLine a) (hb : SingleLine b) :
    SingleLine (a ++ b) := by
  rw [SingleLine, String.toList_append, List.mem_append]
  exact fun line => line.elim ha hb

theorem SingleLine.of_parts {name : String}
    (parts : ∀ c ∈ name.toList, Naming.isIdentifierPart c = true) : SingleLine name := by
  intro line
  have none : Naming.isIdentifierPart '\n' = false := by decide +kernel
  exact Bool.noConfusion (none.symm.trans (parts _ line))

theorem textLines_unlines {lines : List String} (each : ∀ line ∈ lines, SingleLine line) :
    textLines (Target.unlines lines) = lines ++ [""] := by
  induction lines with
  | nil => rfl
  | cons line rest ih =>
    have split : (Target.unlines (line :: rest)).toList
        = line.toList ++ '\n' :: (Target.unlines rest).toList := by
      simp [Target.unlines]
    rw [textLines, split, List.splitOn_append_cons_self_of_not_mem (each line List.mem_cons_self),
      List.map_cons, String.ofList_toList, ← textLines,
      ih fun other ho => each other (List.mem_cons_of_mem line ho), List.cons_append]

namespace Naming

theorem singleLine_unreserved {name : String} (single : SingleLine name) :
    SingleLine (rust.unreserved name) := by
  by_cases reserved : name ∈ rust.reservedWords
  · rw [unreserved_of_mem reserved]
    show SingleLine (escapeRust name)
    rw [escapeRust]
    split
    · exact single.append (by decide)
    · exact SingleLine.append (by decide) single
  · rw [unreserved_of_notMem reserved]
    exact single

theorem singleLine_sanitize (text : String) : SingleLine (sanitize text) :=
  .of_parts fun _ => isIdentifierPart_of_mem_sanitize

theorem singleLine_typeName (className : String) : SingleLine (rust.typeName className) := by
  have single := singleLine_sanitize (pascalCase className)
  rw [Convention.typeName]
  split
  · decide
  · split
    · exact single.append (by decide)
    · exact singleLine_unreserved single

theorem singleLine_memberName (propertyName : String) : SingleLine (rust.memberName propertyName) := by
  rw [Convention.memberName]
  split
  · decide
  · exact singleLine_unreserved (singleLine_sanitize _)

theorem singleLine_numbered {name : String} (single : SingleLine name) (n : Nat) :
    SingleLine (numbered name n) := by
  intro line
  rcases mem_or_isDigit_of_mem_numbered line with own | digit
  · exact single own
  · exact absurd digit (by decide)

end Naming

namespace Declaration.Rust

theorem newline_notMem_toDigits (n : Nat) : '\n' ∉ Nat.toDigits 16 n := by
  have digits : ∀ digit < 16, Nat.digitChar digit ≠ '\n' := by decide
  induction n using Nat.strongRecOn with
  | ind n ih =>
    by_cases small : n < 16
    · rw [Nat.toDigits_of_lt_base small, List.mem_singleton]
      exact (digits n small).symm
    · rw [Nat.toDigits_of_base_le (by decide) (by omega), List.mem_append, List.mem_singleton]
      rintro (higher | last)
      · exact ih (n / 16) (by omega) higher
      · exact digits (n % 16) (Nat.mod_lt n (by decide)) last.symm

theorem newline_notMem_escapeChar (c : Char) : '\n' ∉ escapeChar c := by
  unfold escapeChar
  split
  case h_7 notLine _ _ =>
    split
    · simp [hexEscape, newline_notMem_toDigits]
    · rw [List.mem_singleton]
      exact fun same => notLine same.symm
  all_goals decide

theorem singleLine_literal (text : String) : SingleLine (literal text) := by
  rw [SingleLine, literal, String.toList_ofList]
  simp [newline_notMem_escapeChar]

theorem singleLine_baseType (dataType : DataType) : SingleLine (baseType dataType) := by
  cases dataType with
  | named className => exact Naming.singleLine_typeName className
  | _ => decide

theorem singleLine_fieldType (m : Model) (owner : String) (p : Property) :
    SingleLine (fieldType m owner p) := by
  have single := singleLine_baseType p.dataType
  have vec : SingleLine ("Vec<" ++ baseType p.dataType ++ ">") :=
    (SingleLine.append (by decide) single).append (by decide)
  have box : SingleLine ("Option<Box<" ++ baseType p.dataType ++ ">>") :=
    (SingleLine.append (by decide) single).append (by decide)
  rw [fieldType]
  split
  · exact vec
  · split
    · split
      · exact box
      · exact single
    · exact single

theorem singleLine_fieldLines (m : Model) (owner : String) (p : Property) {field : String}
    (single : SingleLine field) : ∀ line ∈ fieldLines m owner p field, SingleLine line := by
  rw [fieldLines, List.forall_mem_cons, List.forall_mem_singleton]
  constructor
  · exact (SingleLine.append (by decide) (singleLine_literal p.key)).append (by decide)
  · exact ((((SingleLine.append (by decide) single).append (by decide)).append
      (singleLine_fieldType m owner p)).append (by decide))

theorem singleLine_fieldNames (c : Class) : ∀ field ∈ fieldNames c, SingleLine field := by
  rw [fieldNames]
  refine Naming.forall_mem_distinct (P := SingleLine) ?_ ?_
  · exact fun _ n single => Naming.singleLine_numbered single n
  · intro name hn
    obtain ⟨p, _, rfl⟩ := List.mem_map.mp hn
    exact Naming.singleLine_memberName p.name

theorem length_fieldNames (c : Class) : (fieldNames c).length = c.properties.values.length := by
  simp [fieldNames, Naming.distinct, Naming.length_distinctFrom]

theorem singleLine_lines (m : Model) (c : Class) : ∀ line ∈ lines m c, SingleLine line := by
  intro line hl
  rw [lines, List.mem_append, List.mem_append] at hl
  rcases hl with (header | field) | closing
  · simp only [List.mem_cons, List.not_mem_nil, or_false] at header
    rcases header with rfl | rfl | rfl
    · decide
    · decide
    · exact (SingleLine.append (by decide) (Naming.singleLine_typeName c.name)).append (by decide)
  · obtain ⟨⟨p, name⟩, hz, hl⟩ := List.mem_flatMap.mp field
    have member : name ∈ fieldNames c := (List.of_mem_zip hz).2
    exact singleLine_fieldLines m c.name p (singleLine_fieldNames c name member) line hl
  · rw [List.mem_singleton.mp closing]
    decide

theorem keyOf?_fieldLine (p : Property) :
    Target.rust.keyOf? ("    #[serde(rename = " ++ literal p.key ++ ")]") = some p.key := by
  have back : Target.rust.literals.read .nothing
      (p.key.toList.flatMap escapeChar ++ '"' :: [')', ']'])
        = (some p.key.toList).map fun key => (key, [')', ']']) :=
    read_literal p.key.toList _
  simpa [Target.annotationStart, literal] using Target.rust.keyOf?_keyLine _ back

end Declaration.Rust

theorem forall₂_zip_self {α β : Type} {R : α → α × β → Prop} (each : ∀ a b, R a (a, b)) {as : List α}
    {bs : List β} (length : bs.length = as.length) : List.Forall₂ R as (as.zip bs) := by
  induction as generalizing bs with
  | nil => exact .nil
  | cons a as ih =>
    cases bs with
    | nil => cases length
    | cons b bs => exact .cons (each a b) (ih (Nat.succ.inj length))

namespace Target

/-- The two lines of a field: the key of the property is read from the first, and the second declares
the field. -/
structure IsField (p : Property) (field : String × String) : Prop where
  key : rust.keyOf? field.1 = some p.key
  declared : ∃ name typeText, field.2 = "    pub " ++ name ++ ": " ++ typeText ++ ","

theorem map_keyOf? {properties : List Property} {fields : List (String × String)}
    (each : List.Forall₂ IsField properties fields) :
    fields.map (rust.keyOf? ·.1) = (properties.map (·.key)).map some := by
  induction each with
  | nil => rfl
  | cons field _ ih => rw [List.map_cons, List.map_cons, List.map_cons, field.key, ih]

theorem textLines_block (m : Model) (c : Class) :
    ∃ fields : List (String × String),
      textLines (rust.block m c)
        = ["#[derive(Debug, Clone, Default, PartialEq, Serialize, Deserialize)]",
            "#[serde(default)]", rust.openingLine (rust.typeName c.name)] ++
          fields.flatMap (fun field => [field.1, field.2]) ++ ["\x7d", ""] ∧
      List.Forall₂ IsField c.properties.values fields := by
  let keyLine (p : Property) : String :=
    "    #[serde(rename = " ++ Declaration.Rust.literal p.key ++ ")]"
  let declaration (p : Property) (name : String) : String :=
    "    pub " ++ name ++ ": " ++ Declaration.Rust.fieldType m c.name p ++ ","
  refine ⟨(c.properties.values.zip (Declaration.Rust.fieldNames c)).map
    fun x => (keyLine x.1, declaration x.1 x.2), ?_, ?_⟩
  · rw [block, textLines_unlines (Declaration.Rust.singleLine_lines m c), Declaration.Rust.lines,
      List.flatMap_map, List.append_assoc]
    rfl
  · rw [List.forall₂_map_right_iff]
    refine forall₂_zip_self ?_ (Declaration.Rust.length_fieldNames c)
    intro p name
    exact ⟨Declaration.Rust.keyOf?_fieldLine p, name, _, rfl⟩

end Target

/-- In the declarations of an inferred model, solved or not, the block of a class has three lines of
its own, then two lines for each property in their order, and a line that closes it. From the first
line of a property its key is read back, whatever characters it has, so that no two fields of a struct
have the same key. -/
theorem struct_lines (singular : String → String) (steps : List Step) :
    let s := Session.run singular ∅ steps
    ∀ m ∈ [s.model, s.solve], ∀ c ∈ m.classes.values,
      ∃ fields : List (String × String),
        textLines (Target.rust.block m c)
          = ["#[derive(Debug, Clone, Default, PartialEq, Serialize, Deserialize)]",
              "#[serde(default)]", "pub struct " ++ Target.rust.typeName c.name ++ " \x7b"] ++
            fields.flatMap (fun field => [field.1, field.2]) ++ ["\x7d", ""] ∧
        List.Forall₂ Target.IsField c.properties.values fields ∧
        fields.map (Target.rust.keyOf? ·.1) = c.properties.keys.map some ∧
        (fields.map (Target.rust.keyOf? ·.1)).Nodup := by
  intro s m hm c hc
  have form : m.WellFormed singular := wellFormed_run_or_solve singular steps m hm
  obtain ⟨fields, lines, each⟩ := Target.textLines_block m c
  have read : fields.map (Target.rust.keyOf? ·.1) = c.properties.keys.map some := by
    rw [← form.map_key_values hc]
    exact Target.map_keyOf? each
  refine ⟨fields, lines, each, read, ?_⟩
  rw [read]
  exact c.properties.nodup.map (Option.some_injective String)

/-- Keys with a quote, a backslash, brackets, a line break and characters that are not shown. -/
theorem struct_lines_awkward :
    let keys := ["\\\")]", "b\n    pub c: i64,", "\u0301\u2028\x00"]
    let value : Json.Value := .object (keys.map fun key => (key, .number (.integer 1)))
    let s := Session.run Naming.singular ∅ [.observe "Odd" value]
    let c := s.model.classOf "Odd"
    s.model ∈ [s.model, s.solve] ∧ c ∈ s.model.classes.values ∧
    textLines (Target.rust.block s.model c)
      = ["#[derive(Debug, Clone, Default, PartialEq, Serialize, Deserialize)]", "#[serde(default)]",
          "pub struct Odd \x7b",
          "    #[serde(rename = \"\\\\\\\")]\")]", "    pub field: i64,",
          "    #[serde(rename = \"b\\n    pub c: i64,\")]", "    pub bpub_ci64: i64,",
          "    #[serde(rename = \"\\u\x7b301\x7d\\u\x7b2028\x7d\\0\")]", "    pub field2: i64,",
          "\x7d", ""] ∧
    ∃ fields : List (String × String),
      List.Forall₂ Target.IsField c.properties.values fields ∧
      fields.map (Target.rust.keyOf? ·.1) = keys.map some ∧
      (fields.map (Target.rust.keyOf? ·.1)).Nodup := by
  intro keys value s c
  have registered : c ∈ s.model.classes.values := by decide +kernel
  obtain ⟨fields, _, each, read, distinct⟩ := struct_lines Naming.singular
    [.observe "Odd" value] s.model List.mem_cons_self c registered
  have known : c.properties.keys = keys := by decide +kernel
  have lines := textLines_unlines (Declaration.Rust.singleLine_lines s.model c)
  exact ⟨List.mem_cons_self, registered, lines.trans (by decide +kernel), fields, each,
    known ▸ read, distinct⟩

end Exemplar
