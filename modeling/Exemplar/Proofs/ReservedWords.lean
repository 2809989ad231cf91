import Exemplar.Proofs.Declared
import Exemplar.Proofs.MemberNames

/-!
# Reserved words

Reserved words are escaped early, and the names are changed once more after that: a member with the
name of its class is renamed, a type that would hide another gets an underscore, namesakes are
numbered. None of this makes a reserved word again, since each step leaves a character behind that
reserved words do not have: the sign of a mark, an underscore, a capital or a digit. Nor does it make a
raw identifier of one of the four words that cannot be raw. The lines of a declaration are gone through
one by one, so that no name in them is left out.
-/
namespace Exemplar

namespace Naming

/-- The raw identifiers that the language does not admit. -/
def impossibleRaw : List String := ["r#self", "r#Self", "r#super", "r#crate"]

theorem mem_impossibleRaw_iff {name : String} :
    name ∈ impossibleRaw ↔ ∃ word ∈ ["self", "Self", "super", "crate"], "r#" ++ word = name := by
  have raw : impossibleRaw = ["self", "Self", "super", "crate"].map ("r#" ++ ·) := by decide
  rw [raw, List.mem_map]

/-- Numbering makes no word that has no digits. -/
theorem notMem_of_mem_distinct {words names : List String}
    (noDigits : ∀ word ∈ words, ∀ c ∈ word.toList, c.isDigit = false)
    (each : ∀ name ∈ names, name ∉ words) : ∀ name ∈ distinct names, name ∉ words :=
  forall_mem_distinct (fun name n _ => numbered_notMem noDigits name n) each

section Convention
variable {convention : Convention} {mark : Mark} (escapes : convention.EscapesBy mark)
include escapes

theorem unreserved_notMem_reservedWords (name : String) :
    convention.unreserved name ∉ convention.reservedWords := by
  by_cases reserved : name ∈ convention.reservedWords
  · rw [unreserved_of_mem reserved]
    rcases escapes.escape name reserved with marked | underscored
    · have sign : isLetter mark.sign = false := by simp [isLetter, mark.not_part]
      rw [marked]
      exact escapes.notMem_reservedWords (mark.isOn_marked name.toList) sign
    · rw [underscored]
      exact escapes.append_underscore_notMem name
  · rw [unreserved_of_notMem reserved]
    exact reserved

theorem typeName_notMem_reservedWords (unused : anonymous ∉ convention.reservedWords)
    (className : String) : convention.typeName className ∉ convention.reservedWords := by
  rw [Convention.typeName]
  split
  · exact unused
  · split
    · exact escapes.append_underscore_notMem _
    · exact unreserved_notMem_reservedWords escapes _

theorem memberName_notMem_reservedWords (propertyName : String) :
    convention.memberName propertyName ∉ convention.reservedWords := by
  rw [Convention.memberName]
  split
  · exact escapes.fallback.1
  · exact unreserved_notMem_reservedWords escapes _

end Convention

theorem notMem_impossibleRaw {name : String} (plain : ¬ rawMark.IsOn name) :
    name ∉ impossibleRaw := by
  have raw : ∀ name ∈ impossibleRaw, rawMark.IsOn name := by decide
  exact fun member => plain (raw name member)

theorem append_underscore_notMem_impossibleRaw {name : String} (plain : ¬ rawMark.IsOn name) :
    name ++ "_" ∉ impossibleRaw :=
  notMem_impossibleRaw (rawMark.not_isOn_append plain (by decide))

/-- Only words that can be raw are made raw. -/
theorem unreserved_notMem_impossibleRaw {name : String} (plain : ¬ rawMark.IsOn name) :
    rust.unreserved name ∉ impossibleRaw := by
  by_cases reserved : name ∈ rust.reservedWords
  · rw [unreserved_of_mem reserved]
    show escapeRust name ∉ impossibleRaw
    rw [escapeRust]
    split
    · exact append_underscore_notMem_impossibleRaw plain
    · rename_i other
      intro member
      obtain ⟨word, hw, same⟩ := mem_impossibleRaw_iff.mp member
      have own : word = name := by simpa [← String.toList_inj] using same
      exact other (own ▸ hw)
  · rw [unreserved_of_notMem reserved]
    exact notMem_impossibleRaw plain

theorem typeName_notMem_impossibleRaw (className : String) :
    rust.typeName className ∉ impossibleRaw := by
  have plain := rawMark.not_isOn_sanitize (pascalCase className)
  rw [Convention.typeName]
  split
  · decide
  · split
    · exact append_underscore_notMem_impossibleRaw plain
    · exact unreserved_notMem_impossibleRaw plain

theorem memberName_notMem_impossibleRaw (propertyName : String) :
    rust.memberName propertyName ∉ impossibleRaw := by
  rw [Convention.memberName]
  split
  · decide
  · exact unreserved_notMem_impossibleRaw (rawMark.not_isOn_sanitize _)

end Naming

theorem Declaration.CSharp.memberName_notMem_reservedWords (typeName : String) (p : Property) :
    memberName typeName p ∉ Naming.csharp.reservedWords := by
  rw [memberName]
  by_cases same : Naming.csharp.memberName p.name = typeName
  · rw [if_pos same]
    exact fun reserved => Naming.csharp_noCapital _ reserved (by simp)
  · rw [if_neg same]
    exact Naming.memberName_notMem_reservedWords Naming.csharp_escapesBy p.name

namespace Target

/-- The identifiers in the declaration of a class: its own, those of the classes that its members
refer to, and those of its members. -/
def identifiers (target : Target) (c : Class) : List String :=
  target.typeName c.name ::
    (c.properties.values.filterMap (·.dataType.className?)).map target.typeName ++
    target.memberNames c

/-- The types that no class declares. -/
def primitives : Target → List String
  | rust => ["String", "i64", "bool"]
  | csharp _ => ["string", "int", "bool"]

/-- The lines without a name. -/
def bareLines : Target → List String
  | rust =>
    ["#[derive(Debug, Clone, Default, PartialEq, Serialize, Deserialize)]", "#[serde(default)]",
      "\x7d"]
  | csharp _ => ["\x7b", "", "\x7d"]

/-- The line with the key of a property. -/
def keyLine : Target → Property → String
  | rust, p => "    #[serde(rename = " ++ Declaration.Rust.literal p.key ++ ")]"
  | csharp _, p => "    [JsonPropertyName(" ++ Declaration.CSharp.literal p.key ++ ")]"

/-- The lines in which these names stand and no others. -/
inductive LineWith (target : Target) (names : List String) : String → Prop where
  | bare {line} (fixed : line ∈ target.bareLines) : LineWith target names line
  | opening {typeName} (named : typeName ∈ names) :
    LineWith target names (target.openingLine typeName)
  | key (p : Property) : LineWith target names (target.keyLine p)
  | member (p : Property) {typeName typeText name} (typed : typeName ∈ target.primitives ++ names)
    (used : typeText ∈ target.uses typeName) (named : name ∈ names) :
    LineWith target names (target.memberLine p typeText name)

theorem typeName_mem_identifiers (target : Target) (c : Class) :
    target.typeName c.name ∈ target.identifiers c :=
  List.mem_append_left _ List.mem_cons_self

theorem member_mem_identifiers {target : Target} {c : Class} {name : String}
    (h : name ∈ target.memberNames c) : name ∈ target.identifiers c :=
  List.mem_append_right _ h

/-- The class of a property is among the identifiers. -/
theorem used_mem_identifiers (target : Target) {c : Class} {p : Property} {className : String}
    (hp : p ∈ c.properties.values) (ht : p.dataType = .named className) :
    target.typeName className ∈ target.identifiers c := by
  have used : className ∈ c.properties.values.filterMap (·.dataType.className?) :=
    List.mem_filterMap.mpr ⟨p, hp, by rw [ht]; rfl⟩
  exact List.mem_append_left _ (List.mem_cons_of_mem _ (List.mem_map_of_mem used))

theorem lineWith_rust (m : Model) (c : Class) :
    ∀ line ∈ rust.lines m c, rust.LineWith (rust.identifiers c) line := by
  have typed (p : Property) (hp : p ∈ c.properties.values) :
      Declaration.Rust.baseType p.dataType ∈ rust.primitives ++ rust.identifiers c := by
    cases ht : p.dataType with
    | named className => exact List.mem_append_right _ (rust.used_mem_identifiers hp ht)
    | _ => exact List.mem_append_left _ (by decide)
  intro line hl
  simp only [lines, Declaration.Rust.lines, List.mem_append] at hl
  rcases hl with (header | field) | closing
  · simp only [List.mem_cons, List.not_mem_nil, or_false] at header
    rcases header with rfl | rfl | rfl
    · exact .bare (by decide)
    · exact .bare (by decide)
    · exact .opening (rust.typeName_mem_identifiers c)
  · obtain ⟨⟨p, name⟩, hz, hl⟩ := List.mem_flatMap.mp field
    obtain ⟨hp, hn⟩ := List.of_mem_zip hz
    simp only [Declaration.Rust.fieldLines, List.mem_cons, List.not_mem_nil, or_false] at hl
    rcases hl with rfl | rfl
    · exact .key p
    · exact .member p (typed p hp) (Declaration.Rust.fieldType_mem_uses m c.name p)
        (member_mem_identifiers hn)
  · rw [List.mem_singleton.mp closing]
    exact .bare (by decide)

theorem lineWith_csharp (space : Option String) (m : Model) (c : Class) :
    ∀ line ∈ (csharp space).lines m c,
      (csharp space).LineWith ((csharp space).identifiers c) line := by
  have typed (p : Property) (hp : p ∈ c.properties.values) :
      Declaration.CSharp.baseType p.dataType
        ∈ (csharp space).primitives ++ (csharp space).identifiers c := by
    cases ht : p.dataType with
    | named className => exact List.mem_append_right _ ((csharp space).used_mem_identifiers hp ht)
    | _ => exact List.mem_append_left _ (by simp [primitives, Declaration.CSharp.baseType])
  have bare (line : String) (h : line ∈ ["\x7b", "", "\x7d"]) :
      (csharp space).LineWith ((csharp space).identifiers c) line := .bare h
  intro line hl
  simp only [lines, Declaration.CSharp.lines, Declaration.CSharp.bodyLines, List.mem_append] at hl
  rcases hl with (header | body) | closing
  · simp only [List.mem_cons, List.not_mem_nil, or_false] at header
    rcases header with rfl | rfl
    · exact .opening ((csharp space).typeName_mem_identifiers c)
    · exact bare _ (by decide)
  · rcases mem_of_mem_intercalate body with blank | ⟨part, hp, hl⟩
    · rw [List.mem_singleton.mp blank]
      exact bare _ (by decide)
    · obtain ⟨⟨p, name⟩, hz, rfl⟩ := List.mem_map.mp hp
      obtain ⟨hp, hn⟩ := List.of_mem_zip hz
      simp only [Declaration.CSharp.memberLines, List.mem_cons, List.not_mem_nil, or_false] at hl
      rcases hl with rfl | rfl
      · exact .key p
      · exact .member p (typed p hp) (Declaration.CSharp.memberType_mem_uses space p)
          (member_mem_identifiers hn)
  · rw [List.mem_singleton.mp closing]
    exact bare _ (by decide)

theorem lineWith_identifiers (target : Target) (m : Model) (c : Class) :
    ∀ line ∈ target.lines m c, target.LineWith (target.identifiers c) line := by
  cases target with
  | rust => exact lineWith_rust m c
  | csharp space => exact lineWith_csharp space m c

/-- What holds of the identifiers of types and of members holds of all. -/
theorem forall_mem_identifiers {target : Target} {c : Class} {P : String → Prop}
    (types : ∀ className, P (target.typeName className))
    (members : ∀ name ∈ target.memberNames c, P name) : ∀ name ∈ target.identifiers c, P name := by
  intro name hn
  rcases List.mem_append.mp hn with type | member
  · rcases List.mem_cons.mp type with rfl | used
    · exact types c.name
    · obtain ⟨className, _, rfl⟩ := List.mem_map.mp used
      exact types className
  · exact members name member

theorem typeName_notMem_reservedWords (target : Target) (className : String) :
    target.typeName className ∉ target.reservedWords := by
  cases target with
  | rust =>
    exact Naming.typeName_notMem_reservedWords Naming.rust_escapesBy Naming.rust_anonymous.2 className
  | csharp space =>
    exact Naming.typeName_notMem_reservedWords Naming.csharp_escapesBy Naming.csharp_anonymous.2
      className

theorem memberNames_notMem_reservedWords (target : Target) (c : Class) :
    ∀ name ∈ target.memberNames c, name ∉ target.reservedWords := by
  rw [memberNames_eq]
  cases target with
  | rust =>
    apply Naming.notMem_of_mem_distinct (Naming.rust_escapesBy.isDigit_eq_false)
    intro name hn
    obtain ⟨p, _, rfl⟩ := List.mem_map.mp hn
    exact Naming.memberName_notMem_reservedWords Naming.rust_escapesBy p.name
  | csharp space =>
    apply Naming.notMem_of_mem_distinct (Naming.csharp_escapesBy.isDigit_eq_false)
    intro name hn
    obtain ⟨p, _, rfl⟩ := List.mem_map.mp hn
    exact Declaration.CSharp.memberName_notMem_reservedWords _ p

theorem memberNames_notMem_impossibleRaw (c : Class) :
    ∀ name ∈ rust.memberNames c, name ∉ Naming.impossibleRaw := by
  have digits : ∀ word ∈ Naming.impossibleRaw, word.toList.all (!·.isDigit) = true := by decide
  rw [memberNames_eq]
  refine Naming.notMem_of_mem_distinct ?_ ?_
  · intro word hw c hc
    simpa using List.all_eq_true.mp (digits word hw) c hc
  · intro name hn
    obtain ⟨p, _, rfl⟩ := List.mem_map.mp hn
    exact Naming.memberName_notMem_impossibleRaw p.name

/-- The lines of the declaration of any class have its identifiers in them and no others. None of these
is a reserved word, and in Rust none is a raw identifier that the language does not admit. -/
theorem identifiers_unreserved (target : Target) (m : Model) (c : Class) :
    (∀ line ∈ target.lines m c, target.LineWith (target.identifiers c) line) ∧
    (∀ name ∈ target.identifiers c, name ∉ target.reservedWords) ∧
    ∀ name ∈ rust.identifiers c, name ∉ Naming.impossibleRaw := by
  refine ⟨target.lineWith_identifiers m c, ?_, ?_⟩
  · exact forall_mem_identifiers target.typeName_notMem_reservedWords
      (target.memberNames_notMem_reservedWords c)
  · exact forall_mem_identifiers Naming.typeName_notMem_impossibleRaw
      (memberNames_notMem_impossibleRaw c)

/-- Words that either language reserves, two of them spelt alike, in a class with the name of one. -/
theorem identifiers_unreserved_keywords :
    let value : Json.Value := .object
      [("$class", .object
        [("$class", .object []), ("self", .null), ("Self", .null), ("type", .null),
          ("Type", .null)])]
    let m := (Session.observeAll Naming.singular ∅ [⟨"Doc", value⟩]).model
    let c := m.classOf "$class"
    rust.identifiers c
      = ["class", "class", "class", "self_", "self_2", "r#type", "r#type2"] ∧
    (∀ name ∈ rust.identifiers c, name ∉ Naming.rust.reservedWords ∧ name ∉ Naming.impossibleRaw) ∧
    (csharp none).identifiers c
      = ["@class", "@class", "@classValue", "Self", "Self2", "Type", "Type2"] ∧
    ∀ name ∈ (csharp none).identifiers c, name ∉ Naming.csharp.reservedWords := by
  intro value m c
  obtain ⟨_, unreserved, possible⟩ := identifiers_unreserved rust m c
  refine ⟨by decide +kernel, ?_, by decide +kernel, (identifiers_unreserved (csharp none) m c).2.1⟩
  intro name hn
  exact ⟨unreserved name hn, possible name hn⟩

end Target

end Exemplar
