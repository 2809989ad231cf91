import Exemplar.Proofs.CaseKinds
import Exemplar.Proofs.TypeNames

/-!
# Numerals in front

What a text begins with, its signs and separators aside, decides what its identifier begins with. No
spelling changes whether this is a numeral: separators go, a change of case keeps letters letters and
numerals numerals, and an underscore between words stands behind a letter or a numeral. ASCII digits
are told from other numerals, since an identifier has an underscore before them.
-/
namespace Exemplar.Naming
open Unicode

/-- A numeral other than an ASCII digit. -/
def isForeignNumeral (c : Char) : Bool :=
  isNumeric c && !isAsciiDigit c

/-- Whether the first letter or numeral of a text is a numeral other than an ASCII digit. -/
def lead? (text : List Char) : Option Bool :=
  (text.find? isAlphanumeric).map isForeignNumeral

section Characters
variable {c : Char}

theorem numeric_of_isAsciiDigit (digit : isAsciiDigit c = true) :
    isNumeric c = true ∧ isAlphabetic c = false := by
  have ten : ∀ n ∈ List.range' 48 10, numeric.covers n = true ∧ alphabetic.covers n = false := by
    decide
  rw [isAsciiDigit, Bool.and_eq_true, decide_eq_true_iff, decide_eq_true_iff] at digit
  obtain ⟨low, high⟩ := digit
  have low' : 48 ≤ c.toNat := low
  have high' : c.toNat ≤ 57 := high
  exact ten c.toNat (List.mem_range'_1.mpr ⟨low', by omega⟩)

theorem isAlphanumeric_of_isAlphabetic (letter : isAlphabetic c = true) :
    isAlphanumeric c = true := by
  rw [isAlphanumeric, letter, Bool.true_or]

theorem isAlphanumeric_of_isAsciiDigit (digit : isAsciiDigit c = true) :
    isAlphanumeric c = true := by
  rw [isAlphanumeric, (numeric_of_isAsciiDigit digit).1, Bool.or_true]

theorem isForeignNumeral_of_isAlphabetic (letter : isAlphabetic c = true) :
    isForeignNumeral c = isNumeric c := by
  have other : isAsciiDigit c = false := by
    by_contra digit
    rw [Bool.not_eq_false] at digit
    exact Bool.noConfusion (letter.symm.trans (numeric_of_isAsciiDigit digit).2)
  rw [isForeignNumeral, other, Bool.not_false, Bool.and_true]

theorem isIdentifierPart_of_isAlphanumeric (h : isAlphanumeric c = true) :
    isIdentifierPart c = true := by
  rw [isIdentifierPart, h, Bool.true_or]

theorem isIdentifierPart_eq_isAlphanumeric (h : c ≠ '_') :
    isIdentifierPart c = isAlphanumeric c := by
  simp [isIdentifierPart, h]

theorem not_isAlphanumeric_of_separator (h : c ∈ separators) : isAlphanumeric c = false := by
  have none : separators.all (!isAlphanumeric ·) = true := by decide
  simpa using List.all_eq_true.mp none c h

end Characters

theorem lead?_cons_of_pos {c : Char} (h : isAlphanumeric c = true) (rest : List Char) :
    lead? (c :: rest) = some (isForeignNumeral c) := by
  simp [lead?, h]

theorem lead?_cons_of_neg {c : Char} (h : isAlphanumeric c = false) (rest : List Char) :
    lead? (c :: rest) = lead? rest := by
  simp [lead?, h]

theorem lead?_append (a b : List Char) : lead? (a ++ b) = (lead? a).or (lead? b) := by
  rw [lead?, lead?, lead?, List.find?_append]
  cases a.find? isAlphanumeric with
  | none => rfl
  | some c => rfl

/-- The image of a letter or a numeral begins with one. -/
theorem exists_image_of_isAlphanumeric {m : CaseMapping} (keeps : m.KeepsKinds) {c : Char}
    (h : isAlphanumeric c = true) :
    ∃ d rest, m.image c = d :: rest ∧ isAlphanumeric d = true ∧
      isForeignNumeral d = isForeignNumeral c := by
  rcases keeps.image_cases c with same | ⟨d, rest, image, letter, letter', numeral⟩
  · exact ⟨c, [], same, h, rfl⟩
  · refine ⟨d, rest, image, isAlphanumeric_of_isAlphabetic letter', ?_⟩
    rw [isForeignNumeral_of_isAlphabetic letter, isForeignNumeral_of_isAlphabetic letter', numeral]

theorem image_of_not_isAlphanumeric {m : CaseMapping} (keeps : m.KeepsKinds) {c : Char}
    (h : isAlphanumeric c = false) : m.image c = [c] := by
  rcases keeps.image_cases c with same | ⟨_, _, _, letter, _⟩
  · exact same
  · exact Bool.noConfusion (h.symm.trans (isAlphanumeric_of_isAlphabetic letter))

theorem lead?_image_append {m : CaseMapping} (keeps : m.KeepsKinds) (c : Char) (rest : List Char) :
    lead? (m.image c ++ rest) = lead? (c :: rest) := by
  cases h : isAlphanumeric c with
  | true =>
    obtain ⟨d, more, image, part, same⟩ := exists_image_of_isAlphanumeric keeps h
    rw [image, List.cons_append, lead?_cons_of_pos part, lead?_cons_of_pos h, same]
  | false => rw [image_of_not_isAlphanumeric keeps h, List.singleton_append]

theorem lead?_capitalize (text : List Char) : lead? (capitalize text) = lead? text := by
  cases text with
  | nil => rfl
  | cons c rest => exact lead?_image_append CaseMapping.keepsKinds_toUpperCase c rest

theorem lead?_flatMap_capitalize (parts : List (List Char)) :
    lead? (parts.flatMap capitalize) = lead? parts.flatten := by
  induction parts with
  | nil => rfl
  | cons part parts ih =>
    rw [List.flatMap_cons, List.flatten_cons, lead?_append, lead?_append, lead?_capitalize, ih]

/-- The parts of a text, put together again, lack its separators only. -/
theorem flatten_split (separator : Char) (text : List Char) :
    (split separator text).flatten = text.filter (· ≠ separator) := by
  induction text with
  | nil => rfl
  | cons c rest ih =>
    rw [split]
    cases parts : split separator rest with
    | nil => exact absurd parts (split_ne_nil separator rest)
    | cons part more =>
      rw [parts] at ih
      by_cases same : c = separator
      · simpa [same] using ih
      · simpa [same] using ih

/-- What is left out may be anything but letters and numerals. -/
theorem lead?_filter {kept : Char → Bool} (all : ∀ c, isAlphanumeric c = true → kept c = true)
    (text : List Char) : lead? (text.filter kept) = lead? text := by
  have same : (fun c => decide (kept c = true ∧ isAlphanumeric c = true)) = isAlphanumeric := by
    funext c
    simp only [and_iff_right_of_imp (all c), Bool.decide_eq_true]
  rw [lead?, lead?, List.find?_filter, same]

theorem lead?_joinCapitalized {separator : Char} (h : separator ∈ separators) (text : List Char) :
    lead? (joinCapitalized separator text) = lead? text := by
  rw [joinCapitalized, lead?_flatMap_capitalize, flatten_split]
  apply lead?_filter
  intro c part
  rw [decide_eq_true_iff]
  rintro rfl
  exact Bool.noConfusion (part.symm.trans (not_isAlphanumeric_of_separator h))

theorem lead?_eq_none_of_blank {text : List Char} (blank : text.all isBlank = true) :
    lead? text = none := by
  rw [lead?, Option.map_eq_none_iff, List.find?_eq_none]
  intro c hc part
  have hidden := not_isIdentifierPart_of_isBlank (List.all_eq_true.mp blank c hc)
  exact Bool.noConfusion (hidden.symm.trans (isIdentifierPart_of_isAlphanumeric part))

/-- A spelling in Pascal case begins as its text does. -/
theorem lead?_pascalChars (text : List Char) : lead? (pascalChars text) = lead? text := by
  rw [pascalChars]
  split
  · rename_i blank
    rw [lead?_eq_none_of_blank blank]
    rfl
  · exact List.foldlRecOn (motive := fun spelling => lead? spelling = lead? text) separators _ rfl
      fun _ same _ hs => (lead?_joinCapitalized hs _).trans same

/-- Whether the first character of a text that an identifier keeps is a numeral other than an ASCII
digit. -/
def identifierLead? (text : List Char) : Option Bool :=
  (text.find? isIdentifierPart).map isForeignNumeral

theorem identifierLead?_of_notMem {text : List Char} (h : '_' ∉ text) :
    identifierLead? text = lead? text := by
  have same : text.filter isIdentifierPart = text.filter isAlphanumeric := by
    apply List.filter_congr
    intro c hc
    exact isIdentifierPart_eq_isAlphanumeric fun underscore => h (underscore ▸ hc)
  rw [identifierLead?, ← List.head?_filter, same, List.head?_filter, lead?]

/-- No word starts behind a sign, so nothing is written before the first letter or numeral. -/
theorem not_startsWord {previous next : Option Char} {c : Char}
    (sign : ∀ p ∈ previous, isAlphanumeric p = false) : startsWord previous c next = false := by
  cases previous with
  | none => rfl
  | some p =>
    have without {b : Bool} (part : b = true → isAlphanumeric p = true) : b = false := by
      by_contra holds
      rw [Bool.not_eq_false] at holds
      exact Bool.noConfusion ((sign p rfl).symm.trans (part holds))
    have noUpper : isUpper p = false :=
      without fun upper => isAlphanumeric_of_isAlphabetic (isAlphabetic_of_isUpper upper)
    have noLower : isLower p = false :=
      without fun lower => isAlphanumeric_of_isAlphabetic (isAlphabetic_of_isLower lower)
    have noDigit : isAsciiDigit p = false := without isAlphanumeric_of_isAsciiDigit
    rw [startsWord, noUpper, noLower, noDigit]
    simp

/-- As long as signs are read, the gap is empty; the first letter or numeral is the first character
that an identifier keeps. -/
theorem identifierLead?_snakeFrom {last previous : Option Char} {text : List Char}
    (joined : ∀ s ∈ separators, s ∉ text) (sign : ∀ p ∈ previous, isAlphanumeric p = false) :
    identifierLead? (snakeFrom last previous text) = lead? text := by
  -- only signs have been read so far; the first other character ends the induction
  induction text generalizing last previous with
  | nil => rfl
  | cons c rest ih =>
    have within : c ∉ separators := fun hs => joined c hs List.mem_cons_self
    have joinedRest : ∀ s ∈ separators, s ∉ rest :=
      fun s hs later => joined s hs (List.mem_cons_of_mem c later)
    rw [snakeFrom, if_neg within, not_startsWord sign]
    simp only [Bool.false_eq_true, if_false, List.nil_append]
    cases h : isAlphanumeric c with
    | true =>
      obtain ⟨d, more, image, part, same⟩ :=
        exists_image_of_isAlphanumeric CaseMapping.keepsKinds_toLowerCase h
      rw [lead?_cons_of_pos h, identifierLead?, lower, image, List.cons_append,
        List.find?_cons_of_pos (isIdentifierPart_of_isAlphanumeric part), Option.map_some, same]
    | false =>
      have underscore : c ≠ '_' := fun same => within (same ▸ List.mem_cons_self)
      have hidden : ¬ isIdentifierPart c = true := by
        rw [isIdentifierPart_eq_isAlphanumeric underscore, h]
        exact Bool.false_ne_true
      rw [lead?_cons_of_neg h, lower,
        image_of_not_isAlphanumeric CaseMapping.keepsKinds_toLowerCase h, List.singleton_append,
        identifierLead?, List.find?_cons_of_neg hidden]
      refine ih joinedRest ?_
      rintro p ⟨⟩
      exact h

/-- An identifier begins with a numeral exactly if its text leads with one that is no ASCII digit. -/
theorem head?_sanitizeChars_map (text : List Char) :
    (sanitizeChars text).head?.map isNumeric = identifierLead? text := by
  rw [identifierLead?, ← List.head?_filter, sanitizeChars]
  cases text.filter isIdentifierPart with
  | nil => rfl
  | cons c rest =>
    cases digit : isAsciiDigit c with
    | true =>
      have underscore : isNumeric '_' = false := by decide
      simp [digit, isForeignNumeral, underscore]
    | false => simp [digit, isForeignNumeral]

end Exemplar.Naming
