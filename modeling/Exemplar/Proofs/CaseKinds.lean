import Exemplar.Naming.Identifier
import Exemplar.Proofs.UpperCase

/-!
# Letters and numerals in either case

A change of case touches letters only, and the image of a letter begins with a letter; it is a numeral
exactly if the letter is one, as Roman numerals are. These are facts of two long tables, so the sets
given by boundaries are compared as the bits of numbers: below each boundary all bits are flipped.
-/
namespace Exemplar.Unicode

namespace Boundaries

/-- The members of a set below its last boundary, as the bits of one number. -/
def mask (points : List Nat) : Nat :=
  points.foldr (fun p rest => (2 ^ p - 1) ^^^ rest) 0

theorem odd_of_lt_head {points : List Nat} {n : Nat} (below : ∀ p ∈ points.head?, n < p) :
    odd points n = false := by
  cases points with
  | nil => rfl
  | cons p rest => rw [odd, if_pos (below p rfl)]

/-- Above its last boundary a set of an odd number of points goes on, its bits do not. -/
theorem testBit_mask_xor {points : List Nat} (ascending : points.IsChain (· < ·)) (n : Nat) :
    (mask points).testBit n = (odd points n ^^ points.length % 2 == 1) := by
  induction points with
  | nil => simp [mask, odd]
  | cons p rest ih =>
    have step : mask (p :: rest) = (2 ^ p - 1) ^^^ mask rest := rfl
    have parity : ((p :: rest).length % 2 == 1) = !(rest.length % 2 == 1) := by
      rw [List.length_cons]
      rcases Nat.mod_two_eq_zero_or_one rest.length with even | odd
      · simp [Nat.add_mod, even]
      · simp [Nat.add_mod, odd]
    have tail : rest.IsChain (· < ·) := by
      cases rest with
      | nil => exact .nil
      | cons q rest => exact (List.isChain_cons_cons.mp ascending).2
    rw [step, Nat.testBit_xor, Nat.testBit_two_pow_sub_one, ih tail, parity, odd]
    -- below the first boundary of an ascending list nothing is a member
    by_cases below : n < p
    · have later : odd rest n = false := by
        apply odd_of_lt_head
        intro q hq
        cases rest with
        | nil => cases hq
        | cons r rest =>
          cases hq
          exact below.trans (List.isChain_cons_cons.mp ascending).1
      simp [below, later]
    · simp [below]

/-- Boundaries that ascend, the last of which ends a range. -/
structure Closed (b : Boundaries) : Prop where
  ascending : b.points.IsChain (· < ·)
  even : b.points.length % 2 = 0

instance (b : Boundaries) : Decidable b.Closed :=
  decidable_of_iff (b.points.IsChain (· < ·) ∧ b.points.length % 2 = 0)
    ⟨fun ⟨ascending, even⟩ => ⟨ascending, even⟩, fun ⟨ascending, even⟩ => ⟨ascending, even⟩⟩

theorem Closed.testBit_mask {b : Boundaries} (closed : b.Closed) (n : Nat) :
    (mask b.points).testBit n = b.covers n := by
  rw [testBit_mask_xor closed.ascending, closed.even, covers]
  simp

/-- A set whose bits are all among those of another is part of it. -/
theorem Closed.covers_of_mask {a b : Boundaries} (ha : a.Closed) (hb : b.Closed)
    (part : mask a.points &&& mask b.points = mask a.points) {n : Nat} (h : a.covers n = true) :
    b.covers n = true := by
  have bits := congrArg (Nat.testBit · n) part
  simp only [Nat.testBit_and, ha.testBit_mask, hb.testBit_mask] at bits
  rwa [h, Bool.true_and] at bits

theorem closed_tables : ∀ b ∈ [alphabetic, numeric, uppercase, lowercase], b.Closed := by
  decide +kernel

end Boundaries
open Boundaries (closed_tables)

theorem testBit_alphabetic (n : Nat) :
    (Boundaries.mask alphabetic.points).testBit n = alphabetic.covers n :=
  (closed_tables alphabetic (by simp)).testBit_mask n

theorem testBit_numeric (n : Nat) :
    (Boundaries.mask numeric.points).testBit n = numeric.covers n :=
  (closed_tables numeric (by simp)).testBit_mask n

namespace CaseMapping
variable (m : CaseMapping)

/-- The code points that are moved, each with the first of its image. -/
def moves : List (Nat × Nat) :=
  m.expansions.map (fun e => (e.1, e.2.headD 0)) ++
    m.shifts.flatMap fun s => s.run.map fun n => (n, s.target n)

/-- An image is the character itself, or it begins with the character to which it is moved. -/
theorem image_eq_or_moves (some : [] ∉ m.expansions.map Prod.snd) (c : Char) :
    m.image c = [c] ∨
      ∃ first rest, m.image c = Char.ofNat first :: rest ∧ (c.toNat, first) ∈ m.moves := by
  rcases m.image_lookup c with same | ⟨e, he, own, image⟩ | ⟨s, hs, run, image⟩
  · exact .inl same
  · obtain ⟨n, points⟩ := e
    cases points with
    | nil => exact absurd (List.mem_map.mpr ⟨_, he, rfl⟩) some
    | cons first rest =>
      refine .inr ⟨first, rest.map Char.ofNat, image, List.mem_append_left _ ?_⟩
      exact List.mem_map.mpr ⟨_, he, by rw [← own]; rfl⟩
  · refine .inr ⟨s.target c.toNat, [], image, List.mem_append_right _ ?_⟩
    exact List.mem_flatMap.mpr ⟨s, hs, List.mem_map.mpr ⟨_, run, rfl⟩⟩

/-- Only letters are moved, to letters, and numerals to numerals. -/
structure KeepsKinds : Prop where
  some : [] ∉ m.expansions.map Prod.snd
  valid : ∀ x ∈ m.moves, x.2.isValidChar
  letters : ∀ x ∈ m.moves, (Boundaries.mask alphabetic.points).testBit x.1 = true ∧
    (Boundaries.mask alphabetic.points).testBit x.2 = true
  numerals : ∀ x ∈ m.moves, (Boundaries.mask numeric.points).testBit x.1
    = (Boundaries.mask numeric.points).testBit x.2

theorem keepsKinds_toUpperCase : toUpperCase.KeepsKinds where
  some := by decide
  valid := by decide +kernel
  letters := by decide +kernel
  numerals := by decide +kernel

theorem keepsKinds_toLowerCase : toLowerCase.KeepsKinds where
  some := by decide
  valid := by decide +kernel
  letters := by decide +kernel
  numerals := by decide +kernel

/-- A character is its own image, or it is a letter and its image begins with a letter that is a
numeral exactly if the character is one. -/
theorem KeepsKinds.image_cases {m : CaseMapping} (keeps : m.KeepsKinds) (c : Char) :
    m.image c = [c] ∨
      ∃ d rest, m.image c = d :: rest ∧ isAlphabetic c = true ∧ isAlphabetic d = true ∧
        isNumeric d = isNumeric c := by
  rcases m.image_eq_or_moves keeps.some c with same | ⟨first, rest, image, moved⟩
  · exact .inl same
  · have code : (Char.ofNat first).toNat = first := by
      rw [Char.ofNat, dif_pos (keeps.valid _ moved)]
      rfl
    have letters := keeps.letters _ moved
    have numerals := keeps.numerals _ moved
    rw [testBit_alphabetic, testBit_alphabetic] at letters
    rw [testBit_numeric, testBit_numeric] at numerals
    refine .inr ⟨Char.ofNat first, rest, image, letters.1, ?_, ?_⟩
    · rw [isAlphabetic, code]
      exact letters.2
    · rw [isNumeric, isNumeric, code]
      exact numerals.symm

end CaseMapping

/-- Characters with a case are letters. -/
theorem mask_letters : ∀ b ∈ [uppercase, lowercase], Boundaries.mask b.points &&&
    Boundaries.mask alphabetic.points = Boundaries.mask b.points := by
  decide +kernel

theorem isAlphabetic_of_isUpper {c : Char} (h : isUpper c = true) : isAlphabetic c = true :=
  (closed_tables uppercase (by simp)).covers_of_mask (closed_tables alphabetic (by simp))
    (mask_letters uppercase (by simp)) h

theorem isAlphabetic_of_isLower {c : Char} (h : isLower c = true) : isAlphabetic c = true :=
  (closed_tables lowercase (by simp)).covers_of_mask (closed_tables alphabetic (by simp))
    (mask_letters lowercase (by simp)) h

end Exemplar.Unicode
