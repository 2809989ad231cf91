import Exemplar.Proofs.Ascii
import Exemplar.Proofs.LastWord

/-!
# Singulars in either case

The singular of a word of ASCII letters is the same up to case, however the word is capitalized. Tables
are asked in lower case and rules compare folded texts, so the same entry is taken for both spellings;
what a rule keeps of the word is kept letter by letter, and what it writes is in small letters.
-/
namespace Exemplar.Naming
open Unicode

/-- A text in lower case, without regard to the neighbours of its characters. -/
def lowerCase (text : String) : String :=
  String.ofList (text.toList.flatMap lower)

/-- ASCII letters, none of them a capital right behind a small letter. -/
structure IsLetterWord (word : List Char) : Prop where
  letters : ∀ c ∈ word, c.isAlpha = true
  single : word.IsChain fun a b => ¬ (a.isLower = true ∧ b.isUpper = true)

instance (word : List Char) : Decidable (IsLetterWord word) :=
  decidable_of_iff (word.all Char.isAlpha = true ∧
    word.IsChain fun a b => ¬ (a.isLower = true ∧ b.isUpper = true))
    ⟨fun ⟨letters, single⟩ => ⟨List.all_eq_true.mp letters, single⟩,
      fun ⟨letters, single⟩ => ⟨List.all_eq_true.mpr letters, single⟩⟩

namespace Singular

section Characters
variable {c : Char} (letter : c.isAlpha = true)
include letter

theorem lower_of_isAlpha : lower c = [c.toLower] :=
  lower_of_ascii (ascii_of_isAlpha letter)

/-- The rules fold a letter to its small form, which is folded to itself. -/
theorem fold_of_isAlpha : fold c = c.toLower ∧ fold c.toLower = c.toLower :=
  forall_ascii (P := fun c => c.isAlpha = true → fold c = c.toLower ∧ fold c.toLower = c.toLower)
    (by decide) (ascii_of_isAlpha letter) letter

theorem toLower_of_isAlpha : c.toLower.isAlpha = true ∧ c.toLower.isLower = true ∧
    c.toLower.isUpper = false ∧ c.toLower.toLower = c.toLower :=
  forall_ascii (P := fun c => c.isAlpha = true → c.toLower.isAlpha = true ∧
    c.toLower.isLower = true ∧ c.toLower.isUpper = false ∧ c.toLower.toLower = c.toLower)
    (by decide) (ascii_of_isAlpha letter) letter

/-- Letters separate nothing, and only small ones end a word. -/
theorem endsWord_of_isAlpha : c ∉ separators ∧ endsWord c = c.isLower := by
  have own : c ∉ separators ∧ isAsciiDigit c = false :=
    forall_ascii (P := fun c => c.isAlpha = true → c ∉ separators ∧ isAsciiDigit c = false)
      (by decide) (ascii_of_isAlpha letter) letter
  rw [endsWord, own.2, Bool.or_false, isLower_of_ascii (ascii_of_isAlpha letter)]
  exact ⟨own.1, rfl⟩

end Characters

section Letters
variable {word : List Char} (letters : ∀ c ∈ word, c.isAlpha = true)
include letters

theorem flatMap_lower_of_isAlpha : word.flatMap lower = word.map Char.toLower := by
  rw [List.flatMap_congr fun c hc => lower_of_isAlpha (letters c hc)]
  exact List.flatMap_pure_eq_map ..

theorem letters_map_toLower : ∀ c ∈ word.map Char.toLower, c.isAlpha = true := by
  intro c hc
  obtain ⟨d, hd, rfl⟩ := List.mem_map.mp hc
  exact (toLower_of_isAlpha (letters d hd)).1

theorem small_map_toLower : ∀ c ∈ word.map Char.toLower, isLower c = true ∧ isUpper c = false := by
  intro c hc
  obtain ⟨d, hd, rfl⟩ := List.mem_map.mp hc
  obtain ⟨letter, small, noCapital, _⟩ := toLower_of_isAlpha (letters d hd)
  rw [isLower_of_ascii (ascii_of_isAlpha letter), isUpper_of_ascii (ascii_of_isAlpha letter)]
  exact ⟨small, noCapital⟩

theorem map_toLower_toLower : (word.map Char.toLower).map Char.toLower = word.map Char.toLower := by
  rw [List.map_map]
  apply List.map_congr_left
  exact fun c hc => (toLower_of_isAlpha (letters c hc)).2.2.2

theorem map_fold_map_toLower : (word.map Char.toLower).map fold = word.map fold := by
  rw [List.map_map]
  apply List.map_congr_left
  intro c hc
  obtain ⟨same, again⟩ := fold_of_isAlpha (letters c hc)
  exact again.trans same.symm

/-- A rule applies to a word as it does to the word in small letters, and replaces the same. -/
theorem replaced?_map_toLower {rule : Rule}
    (plain : rule.singular.toList.flatMap lower = rule.singular.toList) :
    rule.replaced? (word.map Char.toLower) = (rule.replaced? word).map (·.flatMap lower) := by
  have lettersStem (n : Nat) : ∀ c ∈ word.take n, c.isAlpha = true :=
    fun c hc => letters c (List.mem_of_mem_take hc)
  rw [Rule.replaced?, Rule.replaced?, List.length_map, ← List.map_take,
    map_fold_map_toLower letters, map_fold_map_toLower (lettersStem _)]
  split
  · rw [Option.map_some, List.flatMap_append, plain, flatMap_lower_of_isAlpha (lettersStem _)]
  · rfl

theorem findSome?_replaced?_map_toLower {known : List Rule}
    (plain : ∀ rule ∈ known, rule.singular.toList.flatMap lower = rule.singular.toList) :
    known.findSome? (·.replaced? (word.map Char.toLower))
      = (known.findSome? (·.replaced? word)).map (·.flatMap lower) := by
  induction known with
  | nil => rfl
  | cons rule known ih =>
    rw [List.findSome?_cons, List.findSome?_cons,
      replaced?_map_toLower letters (plain rule List.mem_cons_self),
      ih fun later h => plain later (List.mem_cons_of_mem rule h)]
    cases rule.replaced? word <;> rfl

end Letters

section Small
variable {text : List Char} (small : ∀ c ∈ text, c.isLower = true)
include small

theorem flatMap_lower_of_isLower : text.flatMap lower = text := by
  rw [List.flatMap_congr fun c hc => lower_of_isLower (small c hc), List.flatMap_singleton']

/-- However a text in small letters is capitalized, in lower case it is as before. -/
theorem flatMap_lower_matchCase (word : List Char) : (matchCase word text).flatMap lower = text := by
  have back : ∀ c ∈ text, (upper c).flatMap lower = [c] := by
    intro c hc
    obtain ⟨capital, image, _, back, _⟩ := exists_capital (small c hc)
    rw [image, List.flatMap_singleton, back]
  rw [matchCase]
  split
  · rw [List.flatMap_assoc, List.flatMap_congr back, List.flatMap_singleton']
  · split
    · cases text with
      | nil => rfl
      | cons c rest =>
        rw [capitalize, List.flatMap_append, back c List.mem_cons_self, flatMap_lower_of_isLower
          fun d hd => small d (List.mem_cons_of_mem c hd)]
        rfl
    · exact flatMap_lower_of_isLower small

end Small

theorem flatMap_lower_singular {rule : Rule} (known : rule ∈ rules) :
    rule.singular.toList.flatMap lower = rule.singular.toList := by
  have small : ∀ rule ∈ rules, rule.singular.toList.all Char.isLower = true := by decide
  exact flatMap_lower_of_isLower (List.all_eq_true.mp (small rule known))

theorem isLower_of_lookup_irregular {plural singular : String}
    (entry : irregular.lookup plural = some singular) : ∀ c ∈ singular.toList, c.isLower = true := by
  have small : ∀ entry ∈ irregular, entry.2.toList.all Char.isLower = true := by decide
  obtain ⟨before, after, table, _⟩ := List.lookup_eq_some_iff.mp entry
  have member : (plural, singular) ∈ irregular := by
    rw [table]
    simp
  exact List.all_eq_true.mp (small _ member)

/-- A word in small letters has its singular in small letters. -/
theorem matchCase_of_small {word : List Char}
    (small : ∀ c ∈ word, isLower c = true ∧ isUpper c = false) (replacement : List Char) :
    matchCase word replacement = replacement := by
  cases word with
  | nil => rfl
  | cons c rest =>
    obtain ⟨letter, noCapital⟩ := small c List.mem_cons_self
    simp [matchCase, letter, noCapital]

/-- The singular of a word in small letters is the singular of the word in small letters. -/
theorem ofWord_map_toLower {word : List Char} (letters : ∀ c ∈ word, c.isAlpha = true) :
    ofWord (word.map Char.toLower) = (ofWord word).flatMap lower := by
  have again : (word.map Char.toLower).flatMap lower = word.map Char.toLower := by
    rw [flatMap_lower_of_isAlpha (letters_map_toLower letters), map_toLower_toLower letters]
  rw [ofWord, ofWord, again, flatMap_lower_of_isAlpha letters]
  split
  · exact (flatMap_lower_of_isAlpha letters).symm
  · cases entry : irregular.lookup (String.ofList (word.map Char.toLower)) with
    | some singular =>
      dsimp only
      rw [flatMap_lower_matchCase (isLower_of_lookup_irregular entry),
        matchCase_of_small (small_map_toLower letters)]
    | none =>
      dsimp only
      rw [findSome?_replaced?_map_toLower letters fun _ known => flatMap_lower_singular known]
      cases rules.findSome? (·.replaced? word) with
      | some result => rfl
      | none => exact (flatMap_lower_of_isAlpha letters).symm

end Singular
open Singular

namespace IsLetterWord
variable {word : List Char} (form : IsLetterWord word)
include form

theorem lastWordStart_eq_zero : lastWordStart word = 0 := by
  have joined : ∀ c ∈ word, c ∉ separators :=
    fun c hc => (endsWord_of_isAlpha (form.letters c hc)).1
  have single : word.IsChain fun a b => ¬ (endsWord a = true ∧ isUpper b = true) := by
    refine form.single.imp_of_mem_imp fun a b ha hb apart => ?_
    rw [(endsWord_of_isAlpha (form.letters a ha)).2,
      isUpper_of_ascii (ascii_of_isAlpha (form.letters b hb))]
    exact apart
  exact Singular.lastWordStart_eq_zero joined single

theorem map_toLower : IsLetterWord (word.map Char.toLower) := by
  refine ⟨letters_map_toLower form.letters, (List.isChain_map _).mpr ?_⟩
  refine form.single.imp_of_mem_imp fun a b _ hb _ capital => ?_
  exact Bool.noConfusion (capital.2.symm.trans (toLower_of_isAlpha (form.letters b hb)).2.2.1)

theorem ofKey_flatMap_lower : ofKey (word.flatMap lower) = (ofKey word).flatMap lower := by
  rw [flatMap_lower_of_isAlpha form.letters, ofKey_of_lastWordStart form.lastWordStart_eq_zero,
    ofKey_of_lastWordStart form.map_toLower.lastWordStart_eq_zero, ofWord_map_toLower form.letters]

end IsLetterWord

/-- The singular of a word of ASCII letters in lower case is the singular of the word in lower case, so
words that differ in case only have singulars that do. -/
theorem lowerCase_singular {a : String} (form : IsLetterWord a.toList) :
    lowerCase (singular a) = singular (lowerCase a) ∧
    ∀ b : String, IsLetterWord b.toList → lowerCase b = lowerCase a →
      lowerCase (singular b) = lowerCase (singular a) := by
  have own (word : String) (form : IsLetterWord word.toList) :
      lowerCase (singular word) = singular (lowerCase word) := by
    rw [lowerCase, lowerCase, singular, singular, String.toList_ofList, String.toList_ofList,
      form.ofKey_flatMap_lower]
  refine ⟨own a form, ?_⟩
  intro b form' same
  rw [own b form', own a form, same]

/-- An irregular plural, and a rule that keeps letters in either case. -/
theorem lowerCase_singular_mixed :
    IsLetterWord "CHildren".toList ∧ singular "CHildren" = "Child" ∧
    lowerCase "Child" = singular "children" ∧
    IsLetterWord "QUIzzes".toList ∧ singular "QUIzzes" = "QUIz" ∧
    lowerCase (singular "QUIzzes") = lowerCase (singular "QUIZZES") := by
  have irregular : IsLetterWord "CHildren".toList := by decide
  have regular : IsLetterWord "QUIzzes".toList := by decide
  have capitals : IsLetterWord "QUIZZES".toList := by decide
  have child : singular "CHildren" = "Child" := by decide +kernel
  have small : lowerCase "CHildren" = "children" := by decide +kernel
  have same : lowerCase "QUIzzes" = lowerCase "QUIZZES" := by decide +kernel
  have lowered := (lowerCase_singular irregular).1
  rw [child, small] at lowered
  exact ⟨irregular, child, lowered, regular, by decide +kernel,
    (lowerCase_singular capitals).2 "QUIzzes" regular same⟩

end Exemplar.Naming
