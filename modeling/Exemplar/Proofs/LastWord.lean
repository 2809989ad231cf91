import Exemplar.Naming.Singular
import Mathlib.Data.List.Chain

/-!
# The last word of a key

The start of the last word is found from left to right, and what has been read before it matters only
by the character in front. Behind a separator the rest of a key is read like a key of its own, and so it
is at a capital behind a small letter or a digit, where a word starts anyway. So the singular of a
longer key is that of its end, with the beginning left as it is.
-/
namespace Exemplar.Naming
open Unicode

namespace Singular

/-- A word ends here if an upper-case letter follows. -/
def endsWord (c : Char) : Bool :=
  isLower c || isAsciiDigit c

theorem lastWordFrom_cons (start position : Nat) (previous : Option Char) (c : Char)
    (text : List Char) :
    lastWordFrom start position previous (c :: text)
      = lastWordFrom (if c ∈ separators then position + 1
          else if isUpper c && previous.any endsWord then position else start)
          (position + 1) (some c) text :=
  rfl

theorem lastWordFrom_append (start position : Nat) (previous : Option Char) (a b : List Char) :
    lastWordFrom start position previous (a ++ b)
      = lastWordFrom (lastWordFrom start position previous a) (position + a.length)
          (a.getLast?.or previous) b := by
  induction a generalizing start position previous with
  | nil => rfl
  | cons c a ih =>
    rw [List.cons_append, lastWordFrom_cons, ih, lastWordFrom_cons, List.length_cons,
      List.getLast?_cons]
    have length : position + 1 + a.length = position + (a.length + 1) := by omega
    rw [length]
    cases a.getLast? <;> rfl

/-- A text that stands further behind has its last word further behind. -/
theorem lastWordFrom_add (k start position : Nat) (previous : Option Char) (text : List Char) :
    lastWordFrom (k + start) (k + position) previous text
      = k + lastWordFrom start position previous text := by
  induction text generalizing start position previous with
  | nil => rfl
  | cons c text ih =>
    rw [lastWordFrom_cons, lastWordFrom_cons, ← ih, Nat.add_assoc]
    congr 1
    split
    · rfl
    · split <;> rfl

/-- Behind a character that ends no word a text is read as at the beginning of a key. -/
theorem lastWordFrom_of_not_endsWord {previous : Option Char}
    (fresh : previous.any endsWord = false) (start position : Nat) (text : List Char) :
    lastWordFrom start position previous text = lastWordFrom start position none text := by
  cases text with
  | nil => rfl
  | cons c text => rw [lastWordFrom_cons, lastWordFrom_cons, fresh, Option.any_none]

/-- At an upper-case letter behind the end of a word the last word starts, unless it starts later. -/
theorem lastWordFrom_of_endsWord {p c : Char} (ends : endsWord p = true) (capital : isUpper c = true)
    (start position : Nat) (text : List Char) :
    lastWordFrom start position (some p) (c :: text)
      = lastWordFrom position position none (c :: text) := by
  rw [lastWordFrom_cons, lastWordFrom_cons]
  simp [capital, ends]

/-- Nothing starts a word in a text without separators in which no word ends before a capital. -/
theorem lastWordFrom_of_isChain {previous : Option Char} {text : List Char}
    (joined : ∀ c ∈ text, c ∉ separators)
    (single : (previous.toList ++ text).IsChain fun a b => ¬ (endsWord a = true ∧ isUpper b = true))
    (start position : Nat) : lastWordFrom start position previous text = start := by
  induction text generalizing previous position with
  | nil => rfl
  | cons c text ih =>
    have inside : c ∉ separators := joined c List.mem_cons_self
    have noWord : (isUpper c && previous.any endsWord) = false := by
      cases previous with
      | none => simp
      | some p =>
        have apart := (List.isChain_cons_cons.mp single).1
        rw [Option.any_some, Bool.and_comm, Bool.eq_false_iff, Ne, Bool.and_eq_true]
        exact apart
    have later : ((some c).toList ++ text).IsChain
        fun a b => ¬ (endsWord a = true ∧ isUpper b = true) := by
      cases previous with
      | none => exact single
      | some p => exact (List.isChain_cons_cons.mp single).2
    rw [lastWordFrom_cons, if_neg inside, noWord]
    exact ih (fun d hd => joined d (List.mem_cons_of_mem c hd)) later (position + 1)

theorem lastWordStart_eq_zero {text : List Char} (joined : ∀ c ∈ text, c ∉ separators)
    (single : text.IsChain fun a b => ¬ (endsWord a = true ∧ isUpper b = true)) :
    lastWordStart text = 0 := by
  have behindNothing : ((none : Option Char).toList ++ text).IsChain
      fun a b => ¬ (endsWord a = true ∧ isUpper b = true) := single
  exact lastWordFrom_of_isChain joined behindNothing 0 0

/-- If the last word is found in the end of a key as in a key of its own, the beginning stays. -/
theorem ofKey_append {a b : List Char} (found : lastWordStart (a ++ b) = a.length + lastWordStart b) :
    ofKey (a ++ b) = a ++ ofKey b := by
  rw [ofKey, ofKey, found, List.take_length_add_append, List.drop_length_add_append,
    List.append_assoc]

theorem ofKey_of_lastWordStart {word : List Char} (single : lastWordStart word = 0) :
    ofKey word = ofWord word := by
  rw [ofKey, single]
  rfl

theorem endsWord_of_separator {s : Char} (h : s ∈ separators) : endsWord s = false := by
  have none : separators.all (!endsWord ·) = true := by decide
  simpa using List.all_eq_true.mp none s h

theorem ofKey_append_separator {s : Char} (separator : s ∈ separators) (a b : List Char) :
    ofKey (a ++ s :: b) = a ++ s :: ofKey b := by
  have fresh : (some s).any endsWord = false := endsWord_of_separator separator
  have found : lastWordStart (a ++ [s] ++ b) = (a ++ [s]).length + lastWordStart b := by
    have behind : lastWordFrom 0 0 none (a ++ [s]) = (a ++ [s]).length := by
      rw [lastWordFrom_append, lastWordFrom_cons, if_pos separator, lastWordFrom, List.length_append,
        Nat.zero_add, List.length_singleton]
    rw [lastWordStart, lastWordFrom_append, behind, List.getLast?_concat, Option.some_or,
      lastWordFrom_of_not_endsWord fresh, Nat.zero_add]
    exact lastWordFrom_add _ 0 0 none b
  simpa using ofKey_append found

theorem ofKey_append_capital {a b : List Char} {p c : Char} (before : a.getLast? = some p)
    (ends : endsWord p = true) (capital : isUpper c = true) :
    ofKey (a ++ c :: b) = a ++ ofKey (c :: b) := by
  apply ofKey_append
  rw [lastWordStart, lastWordFrom_append, before, Option.some_or,
    lastWordFrom_of_endsWord ends capital, Nat.zero_add]
  exact lastWordFrom_add a.length 0 0 none (c :: b)

end Singular
open Singular

/-- Only the last word of a key is put into the singular: what stands before a separator, and before a
capital behind a small letter or a digit, stays, and the rest becomes what it would alone. -/
theorem singular_append (a b : String) :
    (∀ s ∈ separators, singular (a ++ String.singleton s ++ b)
      = a ++ String.singleton s ++ singular b) ∧
    (∀ p ∈ a.toList.getLast?, ∀ c ∈ b.toList.head?,
      isLower p = true ∨ isAsciiDigit p = true → isUpper c = true →
        singular (a ++ b) = a ++ singular b) := by
  constructor
  · intro s separator
    rw [← String.toList_inj]
    simp [singular, ofKey_append_separator separator]
  · intro p before c begins ends capital
    obtain ⟨rest, chars⟩ := List.head?_eq_some_iff.mp begins
    rw [← String.toList_inj]
    simp [singular, chars, ofKey_append_capital before (Bool.or_eq_true_iff.mpr ends) capital]

/-- Words of which rules know the whole, behind a separator and behind a digit. -/
theorem singular_append_axes :
    singular "größe_alias2-dataCrises" = "größe_alias2-dataCrisis" ∧
    singular "größe_alias2Axes" = "größe_alias2Axis" := by
  obtain ⟨separated, _⟩ := singular_append "größe_alias2" "dataCrises"
  obtain ⟨_, camel⟩ := singular_append "größe_alias2" "Axes"
  have crises := separated '-' (by decide)
  have axes := camel '2' (by decide) 'A' (by decide) (.inr (by decide)) (by decide)
  have crisis : singular "dataCrises" = "dataCrisis" := by decide +kernel
  have axis : singular "Axes" = "Axis" := by decide +kernel
  rw [crisis] at crises
  rw [axis] at axes
  exact ⟨crises, axes⟩

end Exemplar.Naming
