import Exemplar.Naming.Identifier
import Exemplar.Proofs.UpperCase

/-!
# ASCII characters

Of the characters below 128 the tables say what the functions of the core library on ASCII say, and a
change of case gives a single character. The properties are looked up for all 128 characters; of the
mappings only the letters that they move are, the others stand nowhere in the table.
-/
namespace Exemplar.Unicode
variable {c : Char}

/-- A property of all ASCII characters, checked for one after the other. -/
theorem forall_ascii {P : Char → Prop} (each : ∀ n < 128, P (Char.ofNat n)) (ascii : c.toNat < 128) :
    P c := by
  have own := each c.toNat ascii
  rwa [Char.ofNat_toNat] at own

theorem ascii_of_le {last : Char} (upTo : c ≤ last) (small : last.toNat < 128) : c.toNat < 128 :=
  Nat.lt_of_le_of_lt (UInt32.le_iff_toNat_le.mp upTo) small

theorem ascii_of_isLower (h : c.isLower = true) : c.toNat < 128 := by
  have upTo : c ≤ 'z' := of_decide_eq_true (Bool.and_eq_true_iff.mp h).2
  exact ascii_of_le upTo (by decide)

theorem ascii_of_isDigit (h : c.isDigit = true) : c.toNat < 128 := by
  have upTo : c ≤ '9' := of_decide_eq_true (Bool.and_eq_true_iff.mp h).2
  exact ascii_of_le upTo (by decide)

theorem ascii_of_isAlpha (h : c.isAlpha = true) : c.toNat < 128 := by
  rcases Bool.or_eq_true_iff.mp h with capital | small
  · have upTo : c ≤ 'Z' := (of_decide_eq_true capital).2
    exact ascii_of_le upTo (by decide)
  · exact ascii_of_isLower small

/-- The tables of properties, and the tables of mappings where there is a letter to move. -/
theorem tables_of_ascii (ascii : c.toNat < 128) :
    (isUpper c = c.isUpper ∧ isLower c = c.isLower) ∧
    (c.isLower = true → upper c = [c.toUpper]) ∧ (c.isUpper = true → lower c = [c.toLower]) :=
  forall_ascii (P := fun c => (isUpper c = c.isUpper ∧ isLower c = c.isLower) ∧
    (c.isLower = true → upper c = [c.toUpper]) ∧ (c.isUpper = true → lower c = [c.toLower]))
    (by decide +kernel) ascii

theorem letter_of_moved : (∀ n ∈ toUpperCase.moved, n < 128 → (Char.ofNat n).isLower = true) ∧
    ∀ n ∈ toLowerCase.moved, n < 128 → (Char.ofNat n).isUpper = true := by
  decide +kernel

section Tables
variable (ascii : c.toNat < 128)
include ascii

theorem isUpper_of_ascii : isUpper c = c.isUpper :=
  (tables_of_ascii ascii).1.1

theorem isLower_of_ascii : isLower c = c.isLower :=
  (tables_of_ascii ascii).1.2

theorem upper_of_ascii : upper c = [c.toUpper] := by
  cases letter : c.isLower with
  | true => exact (tables_of_ascii ascii).2.1 letter
  | false =>
    have kept : c.toUpper = c :=
      forall_ascii (P := fun c => c.isLower = false → c.toUpper = c) (by decide) ascii letter
    rw [upper, toUpperCase.image_of_notMem, kept]
    intro moved
    have small := letter_of_moved.1 _ moved ascii
    rw [Char.ofNat_toNat, letter] at small
    cases small

theorem lower_of_ascii : lower c = [c.toLower] := by
  cases letter : c.isUpper with
  | true => exact (tables_of_ascii ascii).2.2 letter
  | false =>
    have kept : c.toLower = c :=
      forall_ascii (P := fun c => c.isUpper = false → c.toLower = c) (by decide) ascii letter
    rw [lower, toLowerCase.image_of_notMem, kept]
    intro moved
    have capital := letter_of_moved.2 _ moved ascii
    rw [Char.ofNat_toNat, letter] at capital
    cases capital

end Tables

/-- The capital of a small letter, and the way back. -/
theorem exists_capital (h : c.isLower = true) :
    ∃ capital, upper c = [capital] ∧ isUpper capital = true ∧ lower capital = [c] ∧
      capital ∉ Naming.separators := by
  have ascii := ascii_of_isLower h
  have own : c.toUpper.toNat < 128 ∧ c.toUpper.isUpper = true ∧ c.toUpper.toLower = c ∧
      c.toUpper ∉ Naming.separators :=
    forall_ascii (P := fun c => c.isLower = true → c.toUpper.toNat < 128 ∧
      c.toUpper.isUpper = true ∧ c.toUpper.toLower = c ∧ c.toUpper ∉ Naming.separators) (by decide)
      ascii h
  obtain ⟨capital, letter, back, within⟩ := own
  refine ⟨c.toUpper, upper_of_ascii ascii, ?_, ?_, within⟩
  · rw [isUpper_of_ascii capital, letter]
  · rw [lower_of_ascii capital, back]

theorem lower_of_isLower (h : c.isLower = true) : lower c = [c] := by
  have ascii := ascii_of_isLower h
  rw [lower_of_ascii ascii, forall_ascii (P := fun c => c.isLower = true → c.toLower = c)
    (by decide) ascii h]

end Exemplar.Unicode
