import Exemplar.Naming.Convention
import Exemplar.Proofs.DistinctNames

/-!
# Escaped words

A language sets its escaped words apart by a mark, which is no part of the identifier that they spell.
A character of the mark stands in no other name, so marked names and plain ones are never confused,
and without the mark they stay distinct as long as no plain name is a reserved word. Numbers keep
plain names so, but a marked name with a number spells a word that is not reserved.
-/
namespace Exemplar.Naming

/-- What stands before an escaped word: a text with a character, its sign, that no identifier has. -/
structure Mark where
  text : List Char
  sign : Char
  sign_mem : sign ∈ text
  not_part : isIdentifierPart sign = false
  not_digit : sign.isDigit = false

/-- The mark of raw identifiers. -/
def rawMark : Mark := ⟨['r', '#'], '#', by decide, by decide +kernel, by decide⟩

/-- The mark of verbatim identifiers. -/
def verbatimMark : Mark := ⟨['@'], '@', by decide, by decide +kernel, by decide⟩

/-- A character of reserved words: any of an identifier but digits and the underscore. -/
def isLetter (c : Char) : Bool :=
  isIdentifierPart c && !c.isDigit && c != '_'

/-- A convention escapes its words by a mark, or makes other words of them by an underscore. -/
structure Convention.EscapesBy (convention : Convention) (mark : Mark) : Prop where
  letters : ∀ word ∈ convention.reservedWords, word.toList.all isLetter = true
  escape : ∀ word ∈ convention.reservedWords,
    convention.escape word = String.ofList (mark.text ++ word.toList) ∨
      convention.escape word = word ++ "_"
  fallback : convention.fallbackMember ∉ convention.reservedWords ∧
    convention.fallbackMember.toList.all isIdentifierPart = true

theorem rust_escapesBy : rust.EscapesBy rawMark where
  letters := by decide +kernel
  escape := by decide +kernel
  fallback := by decide +kernel

theorem csharp_escapesBy : csharp.EscapesBy verbatimMark where
  letters := by decide +kernel
  escape := by decide +kernel
  fallback := by decide +kernel

/-- The name of last resort is no type that a file uses, and not reserved. -/
theorem rust_anonymous : anonymous ∉ rust.usedTypes ∧ anonymous ∉ rust.reservedWords := by
  decide

theorem csharp_anonymous : anonymous ∉ csharp.usedTypes ∧ anonymous ∉ csharp.reservedWords := by
  decide

theorem csharp_noCapital : ∀ word ∈ csharp.reservedWords, 'V' ∉ word.toList := by
  decide +kernel

theorem parts_anonymous : ∀ c ∈ anonymous.toList, isIdentifierPart c = true := by
  have all : anonymous.toList.all isIdentifierPart = true := by decide
  exact List.all_eq_true.mp all

theorem parts_value : ∀ c ∈ "Value".toList, isIdentifierPart c = true := by
  have all : "Value".toList.all isIdentifierPart = true := by decide
  exact List.all_eq_true.mp all

theorem isIdentifierPart_underscore : isIdentifierPart '_' = true := by
  simp [isIdentifierPart]

theorem parts_underscore : ∀ c ∈ "_".toList, isIdentifierPart c = true := by
  simp [isIdentifierPart_underscore]

theorem isIdentifierPart_of_mem_sanitize {text : String} {c : Char}
    (h : c ∈ (sanitize text).toList) : isIdentifierPart c = true := by
  rw [sanitize, String.toList_ofList, sanitizeChars] at h
  cases hf : text.toList.filter isIdentifierPart with
  | nil => rw [hf] at h; cases h
  | cons first rest =>
    rw [hf] at h
    have part (c : Char) (hc : c ∈ first :: rest) : isIdentifierPart c = true :=
      (List.mem_filter.mp (hf ▸ hc)).2
    dsimp only at h
    split at h
    · rcases List.mem_cons.mp h with rfl | h
      · exact isIdentifierPart_underscore
      · exact part c h
    · exact part c h

namespace Mark
variable (mark : Mark)

/-- The name has the sign of the mark. -/
def IsOn (name : String) : Prop :=
  mark.sign ∈ name.toList

instance (name : String) : Decidable (mark.IsOn name) :=
  inferInstanceAs (Decidable (_ ∈ _))

/-- The identifier that a name spells: the name without the mark. -/
def strip (name : String) : String :=
  if mark.text <+: name.toList then String.ofList (name.toList.drop mark.text.length) else name

@[simp] theorem strip_marked (word : List Char) :
    mark.strip (String.ofList (mark.text ++ word)) = String.ofList word := by
  simp [strip]

theorem marked_append (word more : String) :
    String.ofList (mark.text ++ word.toList) ++ more
      = String.ofList (mark.text ++ (word ++ more).toList) := by
  simp [← String.toList_inj]

theorem isOn_marked (word : List Char) : mark.IsOn (String.ofList (mark.text ++ word)) := by
  rw [IsOn, String.toList_ofList]
  exact List.mem_append_left _ mark.sign_mem

theorem strip_plain {name : String} (plain : ¬ mark.IsOn name) : mark.strip name = name :=
  if_neg fun marked => plain (marked.subset mark.sign_mem)

theorem not_isOn_of_parts {name : String}
    (parts : ∀ c ∈ name.toList, isIdentifierPart c = true) : ¬ mark.IsOn name := by
  intro on
  exact Bool.noConfusion (mark.not_part.symm.trans (parts _ on))

theorem not_isOn_of_all {name : String} (parts : name.toList.all isIdentifierPart = true) :
    ¬ mark.IsOn name :=
  mark.not_isOn_of_parts (List.all_eq_true.mp parts)

theorem not_isOn_underscore : ¬ mark.IsOn "_" :=
  mark.not_isOn_of_parts parts_underscore

theorem not_isOn_sanitize (text : String) : ¬ mark.IsOn (sanitize text) :=
  mark.not_isOn_of_parts fun _ => isIdentifierPart_of_mem_sanitize

theorem not_isOn_append {a b : String} (ha : ¬ mark.IsOn a) (hb : ¬ mark.IsOn b) :
    ¬ mark.IsOn (a ++ b) := by
  rw [IsOn, String.toList_append, List.mem_append]
  exact fun on => on.elim ha hb

theorem not_isOn_numbered {name : String} (plain : ¬ mark.IsOn name) (n : Nat) :
    ¬ mark.IsOn (numbered name n) := by
  intro on
  rcases mem_or_isDigit_of_mem_numbered on with own | digit
  · exact plain own
  · exact Bool.noConfusion (mark.not_digit.symm.trans digit)

/-- A reserved word behind the mark, or another word without it. -/
inductive Spelt (words : List String) : String → Prop where
  | marked {word} (reserved : word ∈ words) : Spelt words (String.ofList (mark.text ++ word.toList))
  | plain {name} (unmarked : ¬ mark.IsOn name) (free : name ∉ words) : Spelt words name

end Mark

/-- A number is no part of words without digits. -/
theorem numbered_notMem {words : List String}
    (noDigits : ∀ word ∈ words, ∀ c ∈ word.toList, c.isDigit = false) (name : String) (n : Nat) :
    numbered name n ∉ words := by
  intro member
  obtain ⟨d, rest, digits⟩ := List.exists_cons_of_ne_nil (Nat.toDigits_ne_nil (n := n) (b := 10))
  have digit : d.isDigit = true :=
    Nat.isDigit_of_mem_toDigits (by decide) (by decide) (digits ▸ List.mem_cons_self)
  have inside : d ∈ (numbered name n).toList := by simp [toList_numbered, digits]
  exact Bool.noConfusion (digit.symm.trans (noDigits _ member d inside))

namespace Convention.EscapesBy
variable {convention : Convention} {mark : Mark} (escapes : convention.EscapesBy mark)
include escapes

/-- A name with a character other than a letter is no reserved word. -/
theorem notMem_reservedWords {name : String} {c : Char} (inside : c ∈ name.toList)
    (other : isLetter c = false) : name ∉ convention.reservedWords := by
  intro reserved
  have letter := List.all_eq_true.mp (escapes.letters name reserved) c inside
  exact Bool.noConfusion (other.symm.trans letter)

theorem append_underscore_notMem (name : String) : name ++ "_" ∉ convention.reservedWords :=
  escapes.notMem_reservedWords (c := '_') (by simp) (by simp [isLetter])

theorem isDigit_eq_false :
    ∀ word ∈ convention.reservedWords, ∀ c ∈ word.toList, c.isDigit = false := by
  intro word reserved c hc
  have letter := List.all_eq_true.mp (escapes.letters word reserved) c hc
  simp only [isLetter, Bool.and_eq_true, Bool.not_eq_true'] at letter
  exact letter.1.2

end Convention.EscapesBy

namespace Mark.Spelt
variable {mark : Mark} {words : List String} {a b : String}

/-- Names that spell the same identifier are the same. -/
theorem eq_of_strip_eq (ha : mark.Spelt words a) (hb : mark.Spelt words b)
    (same : mark.strip a = mark.strip b) : a = b := by
  cases ha with
  | marked reserved =>
    cases hb with
    | marked reserved' =>
      simp only [mark.strip_marked, String.ofList_toList] at same
      rw [same]
    | plain unmarked free =>
      rw [mark.strip_marked, mark.strip_plain unmarked, String.ofList_toList] at same
      exact absurd (same ▸ reserved) free
  | plain unmarked free =>
    cases hb with
    | marked reserved =>
      rw [mark.strip_marked, mark.strip_plain unmarked, String.ofList_toList] at same
      exact absurd (same ▸ reserved) free
    | plain unmarked' _ => rwa [mark.strip_plain unmarked, mark.strip_plain unmarked'] at same

end Mark.Spelt

theorem unreserved_of_mem {convention : Convention} {name : String}
    (reserved : name ∈ convention.reservedWords) :
    convention.unreserved name = convention.escape name := by
  simp [Convention.unreserved, Convention.isReserved, reserved]

theorem unreserved_of_notMem {convention : Convention} {name : String}
    (free : name ∉ convention.reservedWords) : convention.unreserved name = name := by
  simp [Convention.unreserved, Convention.isReserved, free]

section Convention
variable {convention : Convention} {mark : Mark} (escapes : convention.EscapesBy mark)
include escapes

theorem spelt_unreserved {name : String} (parts : ∀ c ∈ name.toList, isIdentifierPart c = true) :
    mark.Spelt convention.reservedWords (convention.unreserved name) := by
  by_cases reserved : name ∈ convention.reservedWords
  · rw [unreserved_of_mem reserved]
    rcases escapes.escape name reserved with marked | underscored
    · rw [marked]
      exact .marked reserved
    · rw [underscored]
      exact .plain (mark.not_isOn_append (mark.not_isOn_of_parts parts)
        mark.not_isOn_underscore) (escapes.append_underscore_notMem name)
  · rw [unreserved_of_notMem reserved]
    exact .plain (mark.not_isOn_of_parts parts) reserved

theorem spelt_memberName (propertyName : String) :
    mark.Spelt convention.reservedWords (convention.memberName propertyName) := by
  rw [Convention.memberName]
  split
  · exact .plain (mark.not_isOn_of_all escapes.fallback.2) escapes.fallback.1
  · exact spelt_unreserved escapes fun c => isIdentifierPart_of_mem_sanitize

/-- Numbering keeps names spelt as they should be if no marked name has to be numbered. -/
theorem spelt_distinctFrom {taken names : List String}
    (spelt : ∀ name ∈ names, mark.Spelt convention.reservedWords name)
    (once : (names.filter (mark.IsOn ·)).Nodup)
    (fresh : ∀ name ∈ names, mark.IsOn name → name ∉ taken) :
    ∀ name ∈ distinctFrom taken names, mark.Spelt convention.reservedWords name := by
  induction names generalizing taken with
  | nil => exact nofun
  | cons first rest ih =>
    have speltRest := fun name hn => spelt name (List.mem_cons_of_mem _ hn)
    have freshRest := fun name hn => fresh name (List.mem_cons_of_mem _ hn)
    rw [distinctFrom]
    refine List.forall_mem_cons.mpr ?_
    by_cases on : mark.IsOn first
    · have kept := freeName_of_notMem (fresh first List.mem_cons_self on)
      rw [List.filter_cons_of_pos (by simpa using on), List.nodup_cons] at once
      rw [kept]
      refine ⟨spelt first List.mem_cons_self, ih speltRest once.2 ?_⟩
      intro name hn marked
      refine List.not_mem_cons_of_ne_of_not_mem ?_ (freshRest name hn marked)
      rintro rfl
      exact once.1 (List.mem_filter.mpr ⟨hn, by simpa using marked⟩)
    · rw [List.filter_cons_of_neg (by simpa using on)] at once
      have plain : ¬ mark.IsOn (freeName taken first) ∧
          freeName taken first ∉ convention.reservedWords := by
        by_cases known : first ∈ taken
        · obtain ⟨n, _, numbered, _⟩ := freeName_of_mem known
          rw [numbered]
          exact ⟨mark.not_isOn_numbered on n, numbered_notMem escapes.isDigit_eq_false first n⟩
        · rw [freeName_of_notMem known]
          refine ⟨on, ?_⟩
          cases spelt first List.mem_cons_self with
          | marked reserved => exact absurd (mark.isOn_marked _) on
          | plain _ free => exact free
      refine ⟨.plain plain.1 plain.2, ih speltRest once ?_⟩
      intro name hn marked
      refine List.not_mem_cons_of_ne_of_not_mem ?_ (freshRest name hn marked)
      rintro rfl
      exact plain.1 marked

/-- Distinct names that spell distinct identifiers. -/
theorem nodup_strip_distinct {names : List String}
    (spelt : ∀ name ∈ names, mark.Spelt convention.reservedWords name)
    (once : (names.filter (mark.IsOn ·)).Nodup) : ((distinct names).map mark.strip).Nodup := by
  have result := spelt_distinctFrom escapes spelt once fun _ _ _ => List.not_mem_nil
  refine List.Nodup.map_on ?_ (nodup_distinctFrom [] names)
  intro a ha b hb same
  exact (result a ha).eq_of_strip_eq (result b hb) same

end Convention

end Exemplar.Naming
