import Exemplar.Naming.Words
import Mathlib.Data.Nat.Bitwise

/-!
# What upper case leaves alone

The first character of an upper-case mapping is its own upper case, and a mapping writes no word
separator that was not there. Both are facts of the table: none of the code points that begin an image
is moved in turn, and none of those written is a separator. The code points moved and those written
are compared as the bits of two numbers, since looking each of them up takes far longer.
-/
namespace Exemplar.Unicode

/-- A finite set of numbers as the bits of one number. -/
def bits (numbers : List Nat) : Nat :=
  numbers.foldr (fun n rest => 1 <<< n ||| rest) 0

theorem testBit_bits {numbers : List Nat} {n : Nat} :
    (bits numbers).testBit n = true ↔ n ∈ numbers := by
  induction numbers with
  | nil => simp [bits]
  | cons first rest ih =>
    have step : bits (first :: rest) = 1 <<< first ||| bits rest := rfl
    rw [step, Nat.testBit_or, Bool.or_eq_true, ih, List.mem_cons, Nat.one_shiftLeft,
      Nat.testBit_two_pow, decide_eq_true_iff, eq_comm]

theorem notMem_of_bits {a b : List Nat} (apart : bits a &&& bits b = 0) {n : Nat} (h : n ∈ a) :
    n ∉ b := by
  intro again
  have both := congrArg (Nat.testBit · n) apart
  simp [testBit_bits.mpr h, testBit_bits.mpr again] at both

theorem toNat_ofNat {n : Nat} (valid : n.isValidChar) : (Char.ofNat n).toNat = n := by
  rw [Char.ofNat, dif_pos valid]
  rfl

namespace Shift

/-- The code points that a shift moves. -/
def run (s : Shift) : List Nat :=
  (List.range ((s.last - s.first) / s.step + 1)).map (s.first + · * s.step)

def target (s : Shift) (n : Nat) : Nat :=
  ((n : Int) + s.distance).toNat

theorem mem_run {s : Shift} {n : Nat} (h : s.applies n = true) : n ∈ s.run := by
  simp only [applies, Bool.and_eq_true, decide_eq_true_iff, beq_iff_eq] at h
  obtain ⟨⟨low, high⟩, step⟩ := h
  refine List.mem_map.mpr ⟨(n - s.first) / s.step, ?_, ?_⟩
  · have : (n - s.first) / s.step ≤ (s.last - s.first) / s.step :=
      Nat.div_le_div_right (Nat.sub_le_sub_right high _)
    exact List.mem_range.mpr (Nat.lt_succ_of_le this)
  · have whole := Nat.div_mul_cancel (Nat.dvd_of_mod_eq_zero step)
    omega

end Shift

namespace CaseMapping
variable (m : CaseMapping)

/-- The code points with an image other than themselves. -/
def moved : List Nat :=
  m.expansions.map Prod.fst ++ m.shifts.flatMap Shift.run

/-- The code points with which an image begins. -/
def firsts : List Nat :=
  m.expansions.map (·.2.headD 0) ++ m.shifts.flatMap fun s => s.run.map s.target

/-- The code points of images. -/
def written : List Nat :=
  m.expansions.flatMap Prod.snd ++ m.shifts.flatMap fun s => s.run.map s.target

/-- An image is the character itself, that of an expansion, or a shift of it. -/
theorem image_lookup (c : Char) :
    m.image c = [c] ∨
      (∃ e ∈ m.expansions, e.1 = c.toNat ∧ m.image c = e.2.map Char.ofNat) ∨
      ∃ s ∈ m.shifts, c.toNat ∈ s.run ∧ m.image c = [Char.ofNat (s.target c.toNat)] := by
  rw [image]
  cases he : m.expansions.find? (·.1 == c.toNat) with
  | some e =>
    have own : e.1 = c.toNat := by simpa using List.find?_some he
    exact .inr (.inl ⟨e, List.mem_of_find?_eq_some he, own, rfl⟩)
  | none =>
    cases hs : m.shifts.find? (·.applies c.toNat) with
    | none => exact .inl rfl
    | some s =>
      have applies : s.applies c.toNat = true := by simpa using List.find?_some hs
      exact .inr (.inr ⟨s, List.mem_of_find?_eq_some hs, Shift.mem_run applies, rfl⟩)

theorem image_of_notMem {c : Char} (h : c.toNat ∉ m.moved) : m.image c = [c] := by
  rcases m.image_lookup c with same | ⟨e, he, own, _⟩ | ⟨s, hs, run, _⟩
  · exact same
  · exact absurd (List.mem_append_left _ (List.mem_map.mpr ⟨e, he, own⟩)) h
  · exact absurd (List.mem_append_right _ (List.mem_flatMap.mpr ⟨s, hs, run⟩)) h

/-- An image is the character itself or stands in the table. -/
theorem image_cases (c : Char) :
    m.image c = [c] ∨
      ∃ points : List Nat, m.image c = points.map Char.ofNat ∧ points.headD 0 ∈ m.firsts ∧
        (∀ p ∈ points, p ∈ m.written) ∧ (points = [] → [] ∈ m.expansions.map Prod.snd) := by
  rcases m.image_lookup c with same | ⟨e, he, _, image⟩ | ⟨s, hs, run, image⟩
  · exact .inl same
  · refine .inr ⟨e.2, image, ?_, ?_, ?_⟩
    · exact List.mem_append_left _ (List.mem_map.mpr ⟨e, he, rfl⟩)
    · intro p hp
      exact List.mem_append_left _ (List.mem_flatMap.mpr ⟨e, he, hp⟩)
    · intro empty
      exact List.mem_map.mpr ⟨e, he, empty⟩
  · have target : s.target c.toNat ∈ m.shifts.flatMap fun s => s.run.map s.target :=
      List.mem_flatMap.mpr ⟨s, hs, List.mem_map_of_mem run⟩
    refine .inr ⟨[s.target c.toNat], image, List.mem_append_right _ target, ?_, nofun⟩
    intro p hp
    rw [List.mem_singleton.mp hp]
    exact List.mem_append_right _ target

/-- Only characters are written, and none that separates words. -/
def WritesWords : Prop :=
  ∀ n ∈ m.written, n.isValidChar ∧ n ∉ Naming.separators.map Char.toNat

theorem WritesWords.eq_of_separator_mem {m : CaseMapping} (writes : m.WritesWords) {c e : Char}
    (h : e ∈ m.image c) (separator : e ∈ Naming.separators) : c = e := by
  rcases m.image_cases c with same | ⟨points, image, _, written, _⟩
  · rw [same] at h
    exact (List.mem_singleton.mp h).symm
  · rw [image] at h
    obtain ⟨n, hn, rfl⟩ := List.mem_map.mp h
    obtain ⟨valid, away⟩ := writes n (written n hn)
    exact absurd (List.mem_map.mpr ⟨_, separator, toNat_ofNat valid⟩) away

end CaseMapping

theorem firsts_unmoved {n : Nat} (h : n ∈ toUpperCase.firsts) : n ∉ toUpperCase.moved := by
  have apart : bits toUpperCase.firsts &&& bits toUpperCase.moved = 0 := by decide +kernel
  exact notMem_of_bits apart h

theorem writesWords_toUpperCase : toUpperCase.WritesWords := by
  rw [CaseMapping.WritesWords]
  decide +kernel

/-- An upper-case mapping begins with a character that is its own upper case. -/
theorem upper_cases (c : Char) :
    upper c = [c] ∨ ∃ d rest, upper c = d :: rest ∧ upper d = [d] := by
  rcases toUpperCase.image_cases c with same | ⟨points, image, first, written, some⟩
  · exact .inl same
  · cases points with
    | nil => exact absurd (some rfl) (by decide)
    | cons p rest =>
      have valid := (writesWords_toUpperCase p (written p List.mem_cons_self)).1
      refine .inr ⟨Char.ofNat p, rest.map Char.ofNat, image, ?_⟩
      apply toUpperCase.image_of_notMem
      rw [toNat_ofNat valid]
      exact firsts_unmoved first

theorem upper_ne_nil (c : Char) : upper c ≠ [] := by
  rcases upper_cases c with same | ⟨d, rest, image, _⟩
  · simp [same]
  · simp [image]

theorem upper_of_head?_upper {c d : Char} (h : (upper c).head? = some d) : upper d = [d] := by
  rcases upper_cases c with same | ⟨e, rest, image, kept⟩
  · rw [same] at h
    cases h
    exact same
  · rw [image] at h
    cases h
    exact kept

/-- An upper-case mapping writes no separator of words that was not there. -/
theorem eq_of_separator_mem_upper {c e : Char} (h : e ∈ upper c)
    (separator : e ∈ Naming.separators) : c = e :=
  writesWords_toUpperCase.eq_of_separator_mem h separator

end Exemplar.Unicode
