import Exemplar.Naming.Convention
import Exemplar.Proofs.Ascii
import Exemplar.Proofs.Escaping
import Exemplar.Proofs.SinglePass

/-!
# Snake case found again

A key in snake case loses its underscores in Pascal case, but its words still begin with capitals. If
each word has a second character, that is a small letter or a digit, the capital of the next word comes
after one of them, so the way back to snake case finds every word again. While it is read, the last
character written is the last one read, a small letter or a digit, at the end of each word.
-/
namespace Exemplar.Naming
open Unicode

/-- A small ASCII letter or an ASCII digit. -/
def isSmallOrDigit (c : Char) : Bool :=
  c.isLower || c.isDigit

/-- A word of snake case: a small letter, and small letters or digits behind it, at least one. -/
structure IsSnakeWord (word : List Char) : Prop where
  long : 2 ≤ word.length
  letter : ∀ c ∈ word.head?, c.isLower = true
  small : ∀ c ∈ word, isSmallOrDigit c = true

instance (word : List Char) : Decidable (IsSnakeWord word) :=
  decidable_of_iff (2 ≤ word.length ∧ word.head?.toList.all Char.isLower = true ∧
    word.all isSmallOrDigit = true)
    ⟨fun ⟨long, letter, small⟩ => ⟨long, by simpa using letter, List.all_eq_true.mp small⟩,
      fun ⟨long, letter, small⟩ => ⟨long, by simpa using letter, List.all_eq_true.mpr small⟩⟩

section Characters
variable {c : Char}

theorem ascii_of_isSmallOrDigit (h : isSmallOrDigit c = true) : c.toNat < 128 := by
  rcases Bool.or_eq_true_iff.mp h with letter | digit
  · exact ascii_of_isLower letter
  · exact ascii_of_isDigit digit

/-- Small letters and digits are their own lower case and no capitals. -/
theorem lower_of_isSmallOrDigit (h : isSmallOrDigit c = true) :
    isUpper c = false ∧ lower c = [c] ∧ (isLower c || isAsciiDigit c) = true := by
  have ascii := ascii_of_isSmallOrDigit h
  have own : c.isUpper = false ∧ c.toLower = c ∧ (c.isLower || isAsciiDigit c) = true :=
    forall_ascii (P := fun c => isSmallOrDigit c = true →
      c.isUpper = false ∧ c.toLower = c ∧ (c.isLower || isAsciiDigit c) = true) (by decide) ascii h
  obtain ⟨noCapital, same, smallOrDigit⟩ := own
  rw [isUpper_of_ascii ascii, lower_of_ascii ascii, isLower_of_ascii ascii, same]
  exact ⟨noCapital, rfl, smallOrDigit⟩

/-- They are visible and separate no words. -/
theorem kept_of_isSmallOrDigit (h : isSmallOrDigit c = true) :
    c ∉ separators ∧ isBlank c = false ∧ isIdentifierPart c = true :=
  forall_ascii (P := fun c => isSmallOrDigit c = true →
    c ∉ separators ∧ isBlank c = false ∧ isIdentifierPart c = true) (by decide +kernel)
    (ascii_of_isSmallOrDigit h) h

theorem not_isAsciiDigit_of_isLower (h : c.isLower = true) : isAsciiDigit c = false :=
  forall_ascii (P := fun c => c.isLower = true → isAsciiDigit c = false) (by decide)
    (ascii_of_isLower h) h

end Characters

/-- Small letters and digits are written as they are read. -/
theorem snakeFrom_small {text : List Char} (small : ∀ c ∈ text, isSmallOrDigit c = true)
    (last previous : Option Char) (rest : List Char) :
    snakeFrom last previous (text ++ rest)
      = text ++ snakeFrom (text.getLast?.or last) (text.getLast?.or previous) rest := by
  induction text generalizing last previous with
  | nil => simp
  | cons c text ih =>
    have own := small c List.mem_cons_self
    obtain ⟨noCapital, same, _⟩ := lower_of_isSmallOrDigit own
    have within : c ∉ separators := (kept_of_isSmallOrDigit own).1
    have noGap (next : Option Char) : startsWord previous c next = false := by
      cases previous <;> simp [startsWord, noCapital]
    rw [List.cons_append, snakeFrom, if_neg within, noGap]
    simp only [Bool.false_eq_true, if_false, List.nil_append, same, List.singleton_append,
      List.getLast?_singleton, Option.some_or]
    rw [ih fun d hd => small d (List.mem_cons_of_mem c hd), List.getLast?_cons]
    cases text.getLast? <;> rfl

theorem IsSnakeWord.exists_last {word : List Char} (form : IsSnakeWord word) :
    ∃ last, word.getLast? = some last ∧ isSmallOrDigit last = true := by
  cases ends : word.getLast? with
  | none =>
    have long := form.long
    rw [List.getLast?_eq_none_iff.mp ends] at long
    cases long
  | some last => exact ⟨last, rfl, form.small last (List.mem_of_getLast? ends)⟩

/-- A capitalized word is written in small letters, with an underscore if it comes after another one. -/
theorem snakeFrom_capitalize {word : List Char} (form : IsSnakeWord word) {before : Option Char}
    (behind : ∀ c ∈ before, isSmallOrDigit c = true) (rest : List Char) :
    snakeFrom before before (capitalize word ++ rest)
      = wordGap before ++ word ++ snakeFrom word.getLast? word.getLast? rest := by
  obtain ⟨long, letter, small⟩ := form
  cases word with
  | nil => cases long
  | cons c more =>
    obtain ⟨capital, image, isCapital, back, within⟩ := exists_capital (letter c rfl)
    have gap : (if startsWord before capital (more ++ rest).head? = true then wordGap before else [])
        = wordGap before := by
      cases before with
      | none => rfl
      | some p =>
        have word := (lower_of_isSmallOrDigit (behind p rfl)).2.2
        simp [startsWord, isCapital, word]
    have smallMore : ∀ d ∈ more, isSmallOrDigit d = true :=
      fun d hd => small d (List.mem_cons_of_mem c hd)
    -- the second character makes the end of the word a small letter or a digit, as it is read
    obtain ⟨d, more', rfl⟩ : ∃ d more', more = d :: more' := by
      cases more with
      | nil => simp at long
      | cons d more' => exact ⟨d, more', rfl⟩
    rw [capitalize, image, List.singleton_append, List.cons_append, snakeFrom, if_neg within, gap,
      back]
    dsimp only
    rw [snakeFrom_small smallMore]
    simp [List.getLast?_cons]

/-- Words behind another one get an underscore each. -/
theorem snakeFrom_flatMap_capitalize {parts : List (List Char)}
    (form : ∀ word ∈ parts, IsSnakeWord word) {before : Char}
    (behind : isSmallOrDigit before = true) :
    snakeFrom (some before) (some before) (parts.flatMap capitalize)
      = parts.flatMap ('_' :: ·) := by
  induction parts generalizing before with
  | nil => rfl
  | cons word parts ih =>
    have own := form word List.mem_cons_self
    have gap : wordGap (some before) = ['_'] := by
      have other : before ≠ '_' := by
        rintro rfl
        exact (kept_of_isSmallOrDigit behind).1 List.mem_cons_self
      simp [wordGap, other]
    obtain ⟨last, ends, small⟩ := own.exists_last
    rw [List.flatMap_cons, snakeFrom_capitalize own (by simpa using behind), gap, ends,
      ih (fun w hw => form w (List.mem_cons_of_mem word hw)) small]
    simp

theorem intercalate_eq_append_flatMap (separator : Char) (first : List Char)
    (rest : List (List Char)) :
    [separator].intercalate (first :: rest) = first ++ rest.flatMap (separator :: ·) := by
  induction rest generalizing first with
  | nil => simp
  | cons second rest ih => rw [List.intercalate_cons_cons, ih]; simp

theorem snakeFrom_words {parts : List (List Char)} (form : ∀ word ∈ parts, IsSnakeWord word) :
    snakeFrom none none (parts.flatMap capitalize) = ['_'].intercalate parts := by
  cases parts with
  | nil => rfl
  | cons word parts =>
    have own := form word List.mem_cons_self
    obtain ⟨last, ends, small⟩ := own.exists_last
    have later : ∀ w ∈ parts, IsSnakeWord w := fun w hw => form w (List.mem_cons_of_mem word hw)
    rw [List.flatMap_cons, snakeFrom_capitalize own (by simp), ends,
      snakeFrom_flatMap_capitalize later small, intercalate_eq_append_flatMap]
    rfl

/-- The words of a key in snake case are those that it was joined of. -/
theorem words_intercalate {parts : List (List Char)} (some : parts ≠ [])
    (form : ∀ word ∈ parts, IsSnakeWord word) : words (['_'].intercalate parts) = parts := by
  have split : (['_'].intercalate parts).splitOnP (· ∈ separators) = parts := by
    induction parts with
    | nil => exact absurd rfl some
    | cons word parts ih =>
      have kept : ∀ c ∈ word, decide (c ∈ separators) = false := fun c hc =>
        decide_eq_false (kept_of_isSmallOrDigit ((form word List.mem_cons_self).small c hc)).1
      cases parts with
      | nil => rw [List.intercalate_singleton, List.splitOnP_eq_singleton kept]
      | cons second parts =>
        have later : ∀ w ∈ second :: parts, IsSnakeWord w :=
          fun w hw => form w (List.mem_cons_of_mem word hw)
        rw [List.intercalate_cons_cons, List.append_assoc, List.singleton_append,
          List.splitOnP_append_cons_of_forall_mem kept _ (by decide),
          ih (List.cons_ne_nil second parts) later]
  have nonempty : ∀ word ∈ parts, (!word.isEmpty) = true := by
    intro word hw
    have long := (form word hw).long
    cases word with
    | nil => cases long
    | cons c more => rfl
  rw [words, split, List.filter_eq_self.mpr nonempty]

section Joined
variable {parts : List (List Char)} (some : parts ≠ []) (form : ∀ word ∈ parts, IsSnakeWord word)
include some form

/-- Such a key begins with a small letter and is made of small letters, digits and underscores. -/
theorem exists_head_intercalate : ∃ c rest, ['_'].intercalate parts = c :: rest ∧
    c.isLower = true ∧ ∀ d ∈ c :: rest, isSmallOrDigit d = true ∨ d = '_' := by
  obtain ⟨word, more, rfl⟩ := List.exists_cons_of_ne_nil some
  have own := form word List.mem_cons_self
  cases word with
  | nil => exact absurd own.long (by simp)
  | cons c rest =>
    refine ⟨c, _, by rw [intercalate_eq_append_flatMap, List.cons_append], own.letter c rfl, ?_⟩
    intro d hd
    rw [← List.cons_append, List.mem_append, List.mem_flatMap] at hd
    rcases hd with first | ⟨word, hw, later⟩
    · exact .inl (own.small d first)
    · rcases List.mem_cons.mp later with rfl | later
      · exact .inr rfl
      · exact .inl ((form word (List.mem_cons_of_mem _ hw)).small d later)

theorem snakeFrom_pascalChars_intercalate :
    snakeFrom none none (pascalChars (['_'].intercalate parts)) = ['_'].intercalate parts := by
  obtain ⟨c, rest, key, letter, _⟩ := exists_head_intercalate some form
  have small : isSmallOrDigit c = true := by simp [isSmallOrDigit, letter]
  have seen : (['_'].intercalate parts).all isBlank = false := by
    rw [key, List.all_cons, (kept_of_isSmallOrDigit small).2.1, Bool.false_and]
  rw [pascalChars_eq_words seen, words_intercalate some form, snakeFrom_words form]

theorem sanitizeChars_intercalate :
    sanitizeChars (['_'].intercalate parts) = ['_'].intercalate parts := by
  obtain ⟨c, rest, key, letter, small⟩ := exists_head_intercalate some form
  have kept : (c :: rest).filter isIdentifierPart = c :: rest := by
    rw [List.filter_eq_self]
    intro d hd
    rcases small d hd with smallOrDigit | rfl
    · exact (kept_of_isSmallOrDigit smallOrDigit).2.2
    · exact isIdentifierPart_underscore
  rw [key, sanitizeChars, kept]
  simp [not_isAsciiDigit_of_isLower letter]

end Joined

/-- A key of words in snake case, joined by single underscores, is the snake case of its spelling in
Pascal case. Unless it is reserved it is the identifier of the member. -/
theorem snakeCase_pascalCase_intercalate {parts : List String} (some : parts ≠ [])
    (form : ∀ word ∈ parts, IsSnakeWord word.toList) :
    let key := "_".intercalate parts
    snakeCase (pascalCase key) = key ∧
    (key ∉ rust.reservedWords → rust.memberName (pascalCase key) = key) := by
  intro key
  have someChars : parts.map String.toList ≠ [] := by simpa using some
  have formChars : ∀ word ∈ parts.map String.toList, IsSnakeWord word := by
    simpa using form
  have chars : key.toList = ['_'].intercalate (parts.map String.toList) := by
    rw [String.toList_intercalate]
    rfl
  have again : snakeCase (pascalCase key) = key := by
    rw [snakeCase, pascalCase, String.toList_ofList, chars,
      snakeFrom_pascalChars_intercalate someChars formChars, ← chars, String.ofList_toList]
  refine ⟨again, ?_⟩
  intro free
  have clean : sanitize key = key := by
    rw [sanitize, chars, sanitizeChars_intercalate someChars formChars, ← chars,
      String.ofList_toList]
  have nonempty : key.isEmpty = false := by
    obtain ⟨c, rest, begins, _⟩ := exists_head_intercalate someChars formChars
    rw [Bool.eq_false_iff, Ne, String.isEmpty_iff]
    intro empty
    rw [empty] at chars
    rw [begins] at chars
    cases chars
  have name : sanitize (rust.memberCase (pascalCase key)) = key :=
    (congrArg sanitize again).trans clean
  rw [Convention.memberName, name, nonempty, unreserved_of_notMem free]
  rfl

/-- Words with digits at their ends, and one that would be reserved alone. -/
theorem snakeCase_pascalCase_intercalate_digits :
    let parts := ["line2", "type", "x86", "b1"]
    (∀ word ∈ parts, IsSnakeWord word.toList) ∧
    "_".intercalate parts = "line2_type_x86_b1" ∧
    pascalCase "line2_type_x86_b1" = "Line2TypeX86B1" ∧
    snakeCase "Line2TypeX86B1" = "line2_type_x86_b1" ∧
    "line2_type_x86_b1" ∉ rust.reservedWords ∧
    rust.memberName "Line2TypeX86B1" = "line2_type_x86_b1" := by
  intro parts
  have form : ∀ word ∈ parts, IsSnakeWord word.toList := by decide
  have joined : "_".intercalate parts = "line2_type_x86_b1" := by decide
  have spelt : pascalCase "line2_type_x86_b1" = "Line2TypeX86B1" := by decide +kernel
  have free : "line2_type_x86_b1" ∉ rust.reservedWords := by decide
  obtain ⟨again, member⟩ := snakeCase_pascalCase_intercalate (List.cons_ne_nil _ _) form
  rw [joined, spelt] at again member
  exact ⟨form, joined, spelt, again, free, member free⟩

end Exemplar.Naming
