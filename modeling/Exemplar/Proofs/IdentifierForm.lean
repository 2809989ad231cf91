import Exemplar.Proofs.LeadingNumerals
import Exemplar.Proofs.MemberNames
import Exemplar.Proofs.WellFormed

/-!
# What identifiers look like

Without the mark of an escaped word every identifier is a text of letters, numerals and underscores,
and there is at least one of them. Whatever a name goes through, it gets its mark in front and
everything else behind, so it begins as the spelling of its key does. An underscore stands before ASCII
digits only: an identifier begins with a numeral exactly if its key leads with any other numeral.
-/
namespace Exemplar

namespace Naming
open Unicode

def beginsWithNumeral (name : String) : Bool :=
  name.toList.head?.any isNumeric

/-- The first letter or numeral of the key is a numeral other than an ASCII digit. -/
def leadsWithForeign (key : String) : Bool :=
  (lead? key.toList).getD false

/-- An identifier that begins with a numeral only if its key leads with one that is no ASCII digit,
and then it does. -/
structure IsIdentifierFor (key name : String) : Prop where
  nonempty : name ≠ ""
  parts : ∀ c ∈ name.toList, isIdentifierPart c = true
  numeral : beginsWithNumeral name = leadsWithForeign key

theorem IsIdentifierFor.append {key name : String} (form : IsIdentifierFor key name) {more : String}
    (parts : ∀ c ∈ more.toList, isIdentifierPart c = true) : IsIdentifierFor key (name ++ more) := by
  have some : name.toList ≠ [] := by simpa using form.nonempty
  constructor
  · simp [form.nonempty]
  · intro c hc
    rw [String.toList_append, List.mem_append] at hc
    exact hc.elim (form.parts c) (parts c)
  · rw [← form.numeral, beginsWithNumeral, beginsWithNumeral, String.toList_append,
      List.head?_append_of_ne_nil _ some]

/-- A name that does not depend on its key serves every key without such a numeral. -/
theorem IsIdentifierFor.of_leadsWithForeign {key name : String} (form : IsIdentifierFor "" name)
    (h : leadsWithForeign key = false) : IsIdentifierFor key name where
  nonempty := form.nonempty
  parts := form.parts
  numeral := by
    rw [form.numeral, h]
    rfl

section Sanitize
variable {key text : String} (lead : (identifierLead? text.toList).getD false = leadsWithForeign key)
include lead

theorem isIdentifierFor_sanitize (some : sanitize text ≠ "") :
    IsIdentifierFor key (sanitize text) where
  nonempty := some
  parts := fun _ => isIdentifierPart_of_mem_sanitize
  numeral := by
    rw [← lead, ← head?_sanitizeChars_map, beginsWithNumeral, sanitize, String.toList_ofList]
    cases (sanitizeChars text.toList).head? with
    | none => rfl
    | some c => rfl

theorem leadsWithForeign_of_sanitize_eq (empty : sanitize text = "") :
    leadsWithForeign key = false := by
  have nothing : sanitizeChars text.toList = [] := by
    rw [sanitize, ← String.toList_inj, String.toList_ofList] at empty
    exact empty
  rw [← lead, ← head?_sanitizeChars_map, nothing]
  rfl

end Sanitize

/-- Such an identifier, as it stands or behind the mark. -/
inductive Mark.Writes (mark : Mark) (key : String) : String → Prop where
  | plain {name} (form : IsIdentifierFor key name) : Writes mark key name
  | marked {name} (form : IsIdentifierFor key name) :
    Writes mark key (String.ofList (mark.text ++ name.toList))

namespace Mark.Writes
variable {mark : Mark} {key name : String} (writes : mark.Writes key name)
include writes

theorem strip : IsIdentifierFor key (mark.strip name) := by
  cases writes with
  | plain form =>
    rw [mark.strip_plain (mark.not_isOn_of_parts form.parts)]
    exact form
  | marked form =>
    rw [mark.strip_marked, String.ofList_toList]
    exact form

theorem append {more : String} (parts : ∀ c ∈ more.toList, isIdentifierPart c = true) :
    mark.Writes key (name ++ more) := by
  cases writes with
  | plain form => exact .plain (form.append parts)
  | marked form =>
    rw [mark.marked_append]
    exact .marked (form.append parts)

theorem numbered (n : Nat) : mark.Writes key (Naming.numbered name n) := by
  apply writes.append
  intro c hc
  rw [Nat.toString_eq_repr, Nat.toList_repr] at hc
  have digit : isAsciiDigit c = true := by
    simpa [Char.isDigit, isAsciiDigit, Char.le_def] using
      Nat.isDigit_of_mem_toDigits (by decide) (by decide) hc
  exact isIdentifierPart_of_isAlphanumeric (isAlphanumeric_of_isAsciiDigit digit)

end Mark.Writes

section Convention
variable {convention : Convention} {mark : Mark} (escapes : convention.EscapesBy mark) {key : String}
include escapes

theorem writes_unreserved {name : String} (form : IsIdentifierFor key name) :
    mark.Writes key (convention.unreserved name) := by
  by_cases reserved : name ∈ convention.reservedWords
  · rw [unreserved_of_mem reserved]
    rcases escapes.escape name reserved with marked | underscored
    · rw [marked]
      exact .marked form
    · rw [underscored]
      exact .plain (form.append parts_underscore)
  · rw [unreserved_of_notMem reserved]
    exact .plain form

theorem writes_typeName {className : String}
    (lead : (identifierLead? (pascalCase className).toList).getD false = leadsWithForeign key) :
    mark.Writes key (convention.typeName className) := by
  rw [Convention.typeName]
  split
  · rename_i empty
    have own : IsIdentifierFor "" anonymous :=
      ⟨by decide, parts_anonymous, by decide⟩
    rw [String.isEmpty_iff] at empty
    exact .plain (own.of_leadsWithForeign (leadsWithForeign_of_sanitize_eq lead empty))
  · rename_i some
    have form := isIdentifierFor_sanitize lead (by simpa using some)
    split
    · exact .plain (form.append parts_underscore)
    · exact writes_unreserved escapes form

theorem writes_memberName (fallback : IsIdentifierFor "" convention.fallbackMember)
    {propertyName : String}
    (lead : (identifierLead? (convention.memberCase propertyName).toList).getD false
      = leadsWithForeign key) :
    mark.Writes key (convention.memberName propertyName) := by
  rw [Convention.memberName]
  split
  · rename_i empty
    rw [String.isEmpty_iff] at empty
    exact .plain (fallback.of_leadsWithForeign (leadsWithForeign_of_sanitize_eq lead empty))
  · rename_i some
    exact writes_unreserved escapes (isIdentifierFor_sanitize lead (by simpa using some))

end Convention

theorem lead?_pascalCase (text : String) : lead? (pascalCase text).toList = lead? text.toList := by
  rw [pascalCase, String.toList_ofList, lead?_pascalChars]

theorem identifierLead?_pascalCase (text : String) :
    identifierLead? (pascalCase text).toList = lead? text.toList := by
  have joined : '_' ∉ (pascalCase text).toList :=
    (isPascal_pascalCase text).joined '_' List.mem_cons_self
  rw [identifierLead?_of_notMem joined, lead?_pascalCase]

theorem identifierLead?_snakeCase_pascalCase (text : String) :
    identifierLead? (snakeCase (pascalCase text)).toList = lead? text.toList := by
  rw [snakeCase, String.toList_ofList,
    identifierLead?_snakeFrom (isPascal_pascalCase text).joined (by simp), lead?_pascalCase]

/-- A key without words leads with no numeral, nor does the name that its class has instead. -/
theorem leadsWithForeign_classNameFor (key : String) :
    leadsWithForeign (classNameFor key) = leadsWithForeign key := by
  rw [classNameFor]
  split
  · rename_i empty
    rw [String.isEmpty_iff] at empty
    have own : leadsWithForeign anonymous = false := by decide
    rw [own, leadsWithForeign, ← lead?_pascalCase, empty]
    rfl
  · rw [leadsWithForeign, lead?_pascalCase, leadsWithForeign]

/-- The names that come out stand beside what they were made of, as they were or numbered. -/
theorem eq_or_numbered_of_mem_zip {α : Type} {f : α → String} {taken : List String} {as : List α}
    {x : α × String} (h : x ∈ as.zip (distinctFrom taken (as.map f))) :
    x.1 ∈ as ∧ (x.2 = f x.1 ∨ ∃ n, x.2 = numbered (f x.1) n) := by
  induction as generalizing taken with
  | nil => cases h
  | cons a as ih =>
    rw [List.map_cons, distinctFrom, List.zip_cons_cons] at h
    rcases List.mem_cons.mp h with rfl | later
    · refine ⟨List.mem_cons_self, ?_⟩
      by_cases known : f a ∈ taken
      · obtain ⟨n, _, number, _⟩ := freeName_of_mem known
        exact .inr ⟨n, number⟩
      · exact .inl (freeName_of_notMem known)
    · exact ⟨List.mem_cons_of_mem a (ih later).1, (ih later).2⟩

end Naming

namespace Target

theorem writes_typeName (target : Target) (key : String) :
    target.mark.Writes key (target.typeName (classNameFor key)) := by
  have lead : (Naming.identifierLead? (Naming.pascalCase (classNameFor key)).toList).getD false
      = Naming.leadsWithForeign key := by
    rw [Naming.identifierLead?_pascalCase]
    exact Naming.leadsWithForeign_classNameFor key
  cases target with
  | rust =>
    rw [typeName]
    exact Naming.writes_typeName Naming.rust_escapesBy lead
  | csharp space =>
    rw [typeName]
    exact Naming.writes_typeName Naming.csharp_escapesBy lead

theorem writes_rustMemberName (key : String) :
    Naming.rawMark.Writes key (Naming.rust.memberName (Naming.pascalCase key)) := by
  have fallback : Naming.IsIdentifierFor "" Naming.rust.fallbackMember :=
    ⟨by decide, List.all_eq_true.mp Naming.rust_escapesBy.fallback.2, by decide⟩
  apply Naming.writes_memberName Naming.rust_escapesBy fallback
  show (Naming.identifierLead? (Naming.snakeCase (Naming.pascalCase key)).toList).getD false = _
  rw [Naming.identifierLead?_snakeCase_pascalCase, Naming.leadsWithForeign]

/-- A second spelling in Pascal case changes nothing of this either. -/
theorem writes_csharpMemberName (typeName : String) {p : Property} {key : String}
    (spelt : p.name = Naming.pascalCase key) :
    Naming.verbatimMark.Writes key (Declaration.CSharp.memberName typeName p) := by
  have fallback : Naming.IsIdentifierFor "" Naming.csharp.fallbackMember :=
    ⟨by decide, List.all_eq_true.mp Naming.csharp_escapesBy.fallback.2, by decide⟩
  have writes : Naming.verbatimMark.Writes key (Naming.csharp.memberName p.name) := by
    rw [spelt]
    apply Naming.writes_memberName Naming.csharp_escapesBy fallback
    show (Naming.identifierLead? (Naming.pascalCase (Naming.pascalCase key)).toList).getD false = _
    rw [Naming.identifierLead?_pascalCase, Naming.lead?_pascalCase, Naming.leadsWithForeign]
  rw [Declaration.CSharp.memberName]
  split
  · exact writes.append Naming.parts_value
  · exact writes

theorem writes_memberNames (target : Target) {c : Class}
    (spelt : ∀ p ∈ c.properties.values, p.name = Naming.pascalCase p.key) {x : Property × String}
    (h : x ∈ c.properties.values.zip (target.memberNames c)) : target.mark.Writes x.1.key x.2 := by
  cases target with
  | rust =>
    obtain ⟨member, own | ⟨n, number⟩⟩ := Naming.eq_or_numbered_of_mem_zip h
    · rw [own, spelt x.1 member]
      exact writes_rustMemberName x.1.key
    · rw [number, spelt x.1 member]
      exact (writes_rustMemberName x.1.key).numbered n
  | csharp space =>
    obtain ⟨member, own | ⟨n, number⟩⟩ := Naming.eq_or_numbered_of_mem_zip h
    · rw [own]
      exact writes_csharpMemberName _ (spelt x.1 member)
    · rw [number]
      exact (writes_csharpMemberName _ (spelt x.1 member)).numbered n

end Target

namespace Target

/-- In the declarations of an inferred model, solved or not, the identifier of a class and those of its
members are, without a mark, texts of letters, numerals and underscores that are not empty. They begin
with a numeral exactly if the first letter or numeral of their key is a numeral other than an ASCII
digit. -/
theorem identifiers_fit (target : Target) (singular : String → String) (steps : List Step) :
    let s := Session.run singular ∅ steps
    (∀ key, Naming.IsIdentifierFor key (target.mark.strip (target.typeName (classNameFor key)))) ∧
    ∀ m ∈ [s.model, s.solve], ∀ c ∈ m.classes.values,
      ∀ x ∈ c.properties.values.zip (target.memberNames c),
        Naming.IsIdentifierFor x.1.key (target.mark.strip x.2) := by
  intro s
  constructor
  · intro key
    exact (target.writes_typeName key).strip
  · intro m hm c hc x hx
    have form : m.WellFormed singular := wellFormed_run_or_solve singular steps m hm
    have spelt : ∀ p ∈ c.properties.values, p.name = Naming.pascalCase p.key :=
      fun p hp => form.name_eq hc hp
    exact (target.writes_memberNames spelt hx).strip

/-- A digit in front, a reserved word twice, a sign alone, and a numeral of another script. -/
theorem identifiers_fit_keys :
    let value : Json.Value := .object
      [("2nd", .null), ("type", .null), ("Type", .null), ("$", .null), ("\u0663d", .object [])]
    let s := Session.run Naming.singular ∅ [.observe "Doc" value]
    let c := s.model.classOf "Doc"
    rust.memberNames c = ["_2nd", "r#type", "r#type2", "field", "\u0663d"] ∧
    (∀ x ∈ c.properties.values.zip (rust.memberNames c),
      Naming.IsIdentifierFor x.1.key (rust.mark.strip x.2)) ∧
    rust.typeName (classNameFor "2nd") = "_2nd" ∧
    Naming.IsIdentifierFor "2nd" (rust.mark.strip (rust.typeName (classNameFor "2nd"))) := by
  intro value s c
  obtain ⟨types, members⟩ := identifiers_fit rust Naming.singular [.observe "Doc" value]
  have registered : c ∈ s.model.classes.values := by decide +kernel
  exact ⟨by decide +kernel, members s.model List.mem_cons_self c registered, by decide +kernel,
    types "2nd"⟩

/-- A key that leads with an Arabic digit: its identifiers begin with this digit. -/
theorem identifiers_begin_with_digit :
    let d : Document := ⟨"RootClass", .object [("\u0663d", .object [])]⟩
    let m := (Session.observeAll Naming.singular ∅ [d]).model
    m.names = ["RootClass", "\u0663d"] ∧
    ∀ target ∈ [rust, csharp none],
      target.memberNames (m.classOf "RootClass") = ["\u0663d"] ∧
      target.typeName "\u0663d" = "\u0663d" ∧
      Naming.beginsWithNumeral "\u0663d" = true := by
  decide +kernel

end Target

end Exemplar
