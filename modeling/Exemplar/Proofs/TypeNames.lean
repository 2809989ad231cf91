import Exemplar.Proofs.ClassNames
import Exemplar.Proofs.Declared
import Exemplar.Proofs.Escaping

/-!
# Type identifiers

Of the name of a class its identifier has only the identifier characters. Neither the mark nor the
underscore that a language may require hides them, since the name of a class has no underscores: they
can be read off the identifier again. Two classes thus have the same identifier exactly if the same
characters are left of their names, and as identifiers are not numbered, such classes are declared
under one name.
-/
namespace Exemplar

namespace Unicode

/-- The code points from each point at which a set begins to the next, where it ends. -/
def Boundaries.members : List Nat → List Nat
  | first :: stop :: rest => List.range' first (stop - first) ++ members rest
  | _ => []

theorem Boundaries.mem_members {points : List Nat} (closed : points.length % 2 = 0) {n : Nat}
    (h : odd points n = true) : n ∈ members points := by
  induction points using members.induct with
  | case1 first stop rest ih =>
    have low : first ≤ n := by
      by_contra below
      simp [odd, show n < first by omega] at h
    rw [members, List.mem_append]
    by_cases high : n < stop
    · exact .inl (List.mem_range'_1.mpr ⟨low, by omega⟩)
    · refine .inr (ih (by simp only [List.length_cons] at closed; omega) ?_)
      simpa [odd, show ¬ n < first by omega, high] using h
  | case2 points short =>
    match points, short with
    | [], _ => cases h
    | [_], _ => cases closed
    | first :: stop :: rest, short => exact absurd rfl (short first stop rest)

end Unicode

namespace Naming
open Unicode

theorem not_isIdentifierPart_of_isBlank {c : Char} (h : isBlank c = true) :
    isIdentifierPart c = false := by
  have none : ∀ n ∈ Boundaries.members whiteSpace.points,
      isIdentifierPart (Char.ofNat n) = false := by decide +kernel
  have part := none c.toNat (Boundaries.mem_members (by decide) h)
  rwa [Char.ofNat_toNat] at part

/-- What is left of the name of a class in its identifier. -/
def bareName (className : String) : String :=
  let kept := className.toList.filter isIdentifierPart
  if kept = [] then anonymous else String.ofList kept

/-- The identifier of a type with such a name. -/
def Convention.typeOf (convention : Convention) (bare : String) : String :=
  if sanitize bare ∈ convention.usedTypes then sanitize bare ++ "_"
  else convention.unreserved (sanitize bare)

theorem sanitizeChars_filter (text : List Char) :
    sanitizeChars (text.filter isIdentifierPart) = sanitizeChars text := by
  rw [sanitizeChars, sanitizeChars, List.filter_filter]
  simp only [Bool.and_self]

theorem sanitizeChars_eq_nil_iff (text : List Char) :
    sanitizeChars text = [] ↔ text.filter isIdentifierPart = [] := by
  rw [sanitizeChars]
  cases text.filter isIdentifierPart with
  | nil => simp
  | cons c rest =>
    dsimp only
    split <;> simp

theorem isIdentifierPart_of_mem_bareName {className : String} {c : Char}
    (h : c ∈ (bareName className).toList) : isIdentifierPart c = true := by
  rw [bareName] at h
  split at h
  · exact parts_anonymous c h
  · rw [String.toList_ofList] at h
    exact (List.mem_filter.mp h).2

theorem bareName_of_parts {className : String} (nonempty : className ≠ "")
    (parts : ∀ c ∈ className.toList, isIdentifierPart c = true) : bareName className = className := by
  have kept : className.toList.filter isIdentifierPart = className.toList :=
    List.filter_eq_self.mpr parts
  have some : className.toList ≠ [] := by simpa using nonempty
  rw [bareName, kept, if_neg some, String.ofList_toList]

section ClassName
variable {className : String} (pascal : IsPascal className.toList)
include pascal

theorem underscore_notMem_bareName : '_' ∉ (bareName className).toList := by
  rw [bareName]
  split
  · decide
  · rw [String.toList_ofList]
    intro h
    exact pascal.joined '_' List.mem_cons_self (List.mem_filter.mp h).1

/-- The spelling of a class is the class or, if it is blank, has no identifier characters either. -/
theorem sanitize_pascalCase : sanitize (pascalCase className) = sanitize className := by
  rw [sanitize, sanitize, pascalCase, String.toList_ofList, pascal.pascalChars]
  split
  · rename_i blank
    have none : className.toList.filter isIdentifierPart = [] := by
      rw [List.filter_eq_nil_iff]
      intro c hc part
      have hidden := not_isIdentifierPart_of_isBlank (List.all_eq_true.mp blank c hc)
      exact Bool.noConfusion (part.symm.trans hidden)
    rw [(sanitizeChars_eq_nil_iff _).mpr none]
    rfl
  · rfl

theorem typeName_eq (convention : Convention)
    (unused : anonymous ∉ convention.usedTypes ∧ anonymous ∉ convention.reservedWords) :
    convention.typeName className = convention.typeOf (bareName className) := by
  rw [Convention.typeName, sanitize_pascalCase pascal, bareName]
  by_cases empty : className.toList.filter isIdentifierPart = []
  · have nothing : (sanitize className).isEmpty = true := by
      rw [sanitize, (sanitizeChars_eq_nil_iff _).mpr empty]
      rfl
    have own : sanitize anonymous = anonymous := by decide
    simp [nothing, empty, Convention.typeOf, own, unreserved_of_notMem unused.2, unused.1]
  · have something : (sanitize className).isEmpty = false := by
      rw [sanitize, Bool.eq_false_iff, Ne, String.isEmpty_iff, ← String.toList_inj,
        String.toList_ofList]
      exact fun h => empty ((sanitizeChars_eq_nil_iff _).mp h)
    have same : sanitize (String.ofList (className.toList.filter isIdentifierPart))
        = sanitize className := by
      rw [sanitize, String.toList_ofList, sanitizeChars_filter]
      rfl
    simp [something, empty, Convention.typeOf, same]

end ClassName

/-- The name that is left of a class, read off its identifier. -/
def readBack (mark : Mark) (typeName : String) : String :=
  String.ofList ((mark.strip typeName).toList.filter (· ≠ '_'))

section ReadBack
variable {mark : Mark} {bare : String}

theorem filter_sanitize (parts : ∀ c ∈ bare.toList, isIdentifierPart c = true)
    (joined : '_' ∉ bare.toList) : (sanitize bare).toList.filter (· ≠ '_') = bare.toList := by
  have kept : bare.toList.filter (· ≠ '_') = bare.toList := by
    rw [List.filter_eq_self]
    intro c hc
    simpa using fun same : c = '_' => joined (same ▸ hc)
  rw [sanitize, String.toList_ofList, sanitizeChars, List.filter_eq_self.mpr parts]
  cases chars : bare.toList with
  | nil => rfl
  | cons c rest =>
    rw [chars] at kept
    dsimp only
    split
    · simpa using kept
    · exact kept

theorem readBack_typeOf {convention : Convention} (escapes : convention.EscapesBy mark)
    (parts : ∀ c ∈ bare.toList, isIdentifierPart c = true) (joined : '_' ∉ bare.toList) :
    readBack mark (convention.typeOf bare) = bare := by
  have own := filter_sanitize parts joined
  have plain : ¬ mark.IsOn (sanitize bare) := mark.not_isOn_sanitize bare
  have plainUnderscore : ¬ mark.IsOn (sanitize bare ++ "_") :=
    mark.not_isOn_append plain mark.not_isOn_underscore
  have underscored : readBack mark (sanitize bare ++ "_") = bare := by
    rw [readBack, mark.strip_plain plainUnderscore, String.toList_append, List.filter_append, own]
    simp
  rw [Convention.typeOf]
  by_cases used : sanitize bare ∈ convention.usedTypes
  · rw [if_pos used]
    exact underscored
  · rw [if_neg used]
    by_cases reserved : sanitize bare ∈ convention.reservedWords
    · rw [unreserved_of_mem reserved]
      rcases escapes.escape _ reserved with marked | other
      · rw [marked, readBack, mark.strip_marked, String.toList_ofList, own, String.ofList_toList]
      · rw [other]
        exact underscored
    · rw [unreserved_of_notMem reserved, readBack, mark.strip_plain plain, own, String.ofList_toList]

theorem typeName_eq_iff {convention : Convention} (escapes : convention.EscapesBy mark)
    (unused : anonymous ∉ convention.usedTypes ∧ anonymous ∉ convention.reservedWords)
    {a b : String} (ha : IsPascal a.toList) (hb : IsPascal b.toList) :
    convention.typeName a = convention.typeName b ↔ bareName a = bareName b := by
  rw [typeName_eq ha convention unused, typeName_eq hb convention unused]
  constructor
  · intro same
    have back := congrArg (readBack mark) same
    rwa [readBack_typeOf escapes (fun _ => isIdentifierPart_of_mem_bareName)
        (underscore_notMem_bareName ha),
      readBack_typeOf escapes (fun _ => isIdentifierPart_of_mem_bareName)
        (underscore_notMem_bareName hb)] at back
  · exact congrArg convention.typeOf

end ReadBack

end Naming

namespace Target

theorem typeName_eq_iff (target : Target) {a b : String} (ha : Naming.IsPascal a.toList)
    (hb : Naming.IsPascal b.toList) :
    target.typeName a = target.typeName b ↔ Naming.bareName a = Naming.bareName b := by
  cases target with
  | rust =>
    rw [typeName]
    exact Naming.typeName_eq_iff Naming.rust_escapesBy Naming.rust_anonymous ha hb
  | csharp space =>
    rw [typeName]
    exact Naming.typeName_eq_iff Naming.csharp_escapesBy Naming.csharp_anonymous ha hb

/-- Two classes of a session have the same type identifier exactly if the same identifier characters
are left of their names. If the names consist of identifier characters, every class is declared under
an identifier of its own, and the class that a property has as its type is the only one with the
identifier by which its member names it. -/
theorem typeNames_identify (target : Target) (singular : String → String)
    (documents : List Document) :
    let m := (Session.observeAll singular ∅ documents).model
    (∀ a ∈ m.names, ∀ b ∈ m.names,
      target.typeName a = target.typeName b ↔ Naming.bareName a = Naming.bareName b) ∧
    ((∀ n ∈ m.names, ∀ c ∈ n.toList, Naming.isIdentifierPart c = true) →
      (m.names.map target.typeName).Nodup ∧
      ∀ className other, m.Refers className other →
        ∀ n ∈ m.names, target.typeName n = target.typeName other → n = other) := by
  intro m
  have spelt (n : String) (hn : n ∈ m.names) : Naming.IsPascal n.toList ∧ n ≠ "" := by
    obtain ⟨key, rfl⟩ := exists_key_of_mem_names singular documents hn
    exact ⟨isPascal_classNameFor key, classNameFor_ne_empty key⟩
  have same (a : String) (ha : a ∈ m.names) (b : String) (hb : b ∈ m.names) :
      target.typeName a = target.typeName b ↔ Naming.bareName a = Naming.bareName b :=
    target.typeName_eq_iff (spelt a ha).1 (spelt b hb).1
  refine ⟨same, ?_⟩
  intro parts
  have bare (n : String) (hn : n ∈ m.names) : Naming.bareName n = n :=
    Naming.bareName_of_parts (spelt n hn).2 (parts n hn)
  have apart (a : String) (ha : a ∈ m.names) (b : String) (hb : b ∈ m.names)
      (h : target.typeName a = target.typeName b) : a = b := by
    have left := (same a ha b hb).mp h
    rwa [bare a ha, bare b hb] at left
  constructor
  · exact List.Nodup.map_on apart m.classes.nodup
  · intro className other refers n hn
    exact apart n hn other (closed_observeAll singular documents className other refers)

/-- Names that need an underscore or a mark, or begin with a digit. -/
theorem typeNames_identify_used :
    let d : Document := ⟨"RootClass", .object
      [("order_lines", .array [.object []]), ("string", .object []), ("self", .object []),
        ("2nd", .object []), ("été", .object [])]⟩
    let m := (Session.observeAll Naming.singular ∅ [d]).model
    m.names = ["RootClass", "OrderLine", "String", "Self", "2nd", "Été"] ∧
    m.names.map rust.typeName = ["RootClass", "OrderLine", "String_", "Self_", "_2nd", "Été"] ∧
    (m.names.map rust.typeName).Nodup := by
  intro d m
  have parts : ∀ n ∈ m.names, n.toList.all Naming.isIdentifierPart = true := by decide +kernel
  exact ⟨by decide +kernel, by decide +kernel,
    ((typeNames_identify rust Naming.singular [d]).2 fun n hn => List.all_eq_true.mp (parts n hn)).1⟩

/-- Classes whose names differ in a sign that identifiers lack are declared under one name. -/
theorem typeNames_collide :
    let d : Document := ⟨"RootClass", .object [("a$b", .object []), ("ab", .object [])]⟩
    let m := (Session.observeAll Naming.singular ∅ [d]).model
    m.names = ["RootClass", "A$b", "Ab"] ∧
    m.names.map rust.typeName = ["RootClass", "Ab", "Ab"] ∧
    m.names.map (csharp none).typeName = ["RootClass", "Ab", "Ab"] := by
  decide +kernel

end Target

end Exemplar
