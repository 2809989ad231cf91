import Exemplar.Proofs.DistinctNames
import Mathlib.Data.Nat.Init
import Mathlib.Order.Bounds.Defs

/-!
# The least free number

A name that is taken is tried with one number after the other, without a bound. The trials end all the
same: the name and each number passed over are taken, they are distinct, and so there are no more of
them than names that came out before. What comes out depends on these names only as a set, so each
place of the list can be read on its own.
-/
namespace Exemplar.Naming

/-- Trials for a name, from a candidate on: one that is taken makes way for the name with the next
number. -/
inductive Trials (taken : List String) (name : String) : String → Nat → String → Prop where
  | free {candidate : String} {next : Nat} (fresh : candidate ∉ taken) :
      Trials taken name candidate next candidate
  | passed {candidate result : String} {next : Nat} (known : candidate ∈ taken)
      (later : Trials taken name (numbered name next) (next + 1) result) :
      Trials taken name candidate next result

section Trials
variable {taken : List String} {name : String}

theorem numbered_ne (name : String) (n : Nat) : numbered name n ≠ name := by
  intro same
  have chars := congrArg String.toList same
  rw [toList_numbered, List.append_right_eq_self] at chars
  exact Nat.toDigits_ne_nil chars

/-- Numbers that are passed over are taken, like the name itself, so there is room for few of them. -/
theorem le_of_passed {n : Nat} (known : name ∈ taken)
    (passed : ∀ k, 2 ≤ k → k < n → numbered name k ∈ taken) : n ≤ taken.length + 1 := by
  let before := name :: (List.range (n - 2)).map fun i => numbered name (i + 2)
  have distinct : before.Nodup := by
    refine List.nodup_cons.mpr ⟨?_, nodup_numbered name (n - 2)⟩
    intro again
    obtain ⟨i, _, same⟩ := List.mem_map.mp again
    exact numbered_ne name (i + 2) same
  have subset : before ⊆ taken := by
    refine List.cons_subset.mpr ⟨known, ?_⟩
    intro candidate hc
    obtain ⟨i, hi, rfl⟩ := List.mem_map.mp hc
    have := List.mem_range.mp hi
    exact passed (i + 2) (by omega) (by omega)
  have length := (distinct.subperm subset).length_le
  simp only [before, List.length_cons, List.length_map, List.length_range] at length
  omega

theorem freeName_isLeast (known : name ∈ taken) :
    ∃ n ≤ taken.length + 1, IsLeast {n | 2 ≤ n ∧ numbered name n ∉ taken} n ∧
      freeName taken name = numbered name n := by
  obtain ⟨n, two, free, fresh, least⟩ := freeName_of_mem known
  refine ⟨n, le_of_passed known least, ⟨⟨two, fresh⟩, ?_⟩, free⟩
  rintro k ⟨twoLe, freshAt⟩
  by_contra lower
  exact freshAt (least k twoLe (Nat.lt_of_not_le lower))

/-- From each number that is passed over the trials go on to the first free one. -/
theorem trials_numbered {n : Nat} (fresh : numbered name n ∉ taken)
    (passed : ∀ k, 2 ≤ k → k < n → numbered name k ∈ taken) {k : Nat} (two : 2 ≤ k) (le : k ≤ n) :
    Trials taken name (numbered name k) (k + 1) (numbered name n) := by
  induction le using Nat.decreasingInduction with
  | self => exact .free fresh
  | of_succ k lt ih => exact .passed (passed k two lt) (ih (by omega))

theorem trials_freeName (taken : List String) (name : String) :
    Trials taken name name 2 (freeName taken name) := by
  by_cases known : name ∈ taken
  · obtain ⟨n, two, free, fresh, least⟩ := freeName_of_mem known
    rw [free]
    exact .passed known (trials_numbered fresh least (Nat.le_refl 2) two)
  · rw [freeName_of_notMem known]
    exact .free known

theorem Trials.unique {candidate first second : String} {next : Nat}
    (one : Trials taken name candidate next first) (other : Trials taken name candidate next second) :
    first = second := by
  induction one with
  | free fresh =>
    cases other with
    | free => rfl
    | passed known => exact absurd known fresh
  | passed known _ ih =>
    cases other with
    | free fresh => exact absurd known fresh
    | passed _ later => exact ih later

/-- The trials for a name end, and with the free name only. -/
theorem trials_iff {result : String} :
    Trials taken name name 2 result ↔ result = freeName taken name := by
  constructor
  · exact fun trials => trials.unique (trials_freeName taken name)
  · rintro rfl
    exact trials_freeName taken name

end Trials

/-- It matters which names are taken, not in which order. -/
theorem freeName_congr {taken others : List String} (same : ∀ name, name ∈ taken ↔ name ∈ others)
    (name : String) : freeName taken name = freeName others name := by
  by_cases known : name ∈ taken
  · obtain ⟨n, two, free, fresh, least⟩ := freeName_of_mem known
    rw [free, freeName_eq_numbered ((same name).mp known) two (mt (same _).mpr fresh)
      fun k hk lt => (same _).mp (least k hk lt)]
  · rw [freeName_of_notMem known, freeName_of_notMem (mt (same name).mpr known)]

/-- Each name is made free of those that came out before it. -/
theorem getElem?_distinctFrom (taken names : List String) (i : Nat) :
    (distinctFrom taken names)[i]?
      = names[i]?.map (freeName ((distinctFrom taken names).take i ++ taken)) := by
  induction names generalizing taken i with
  | nil => rfl
  | cons first rest ih =>
    cases i with
    | zero => rfl
    | succ i =>
      rw [distinctFrom, List.getElem?_cons_succ, List.getElem?_cons_succ, List.take_succ_cons, ih]
      -- the first name stands among those taken here, and among those that came out there
      have sameNames : ∀ name, name ∈ (distinctFrom (freeName taken first :: taken) rest).take i ++
            freeName taken first :: taken ↔
          name ∈ freeName taken first ::
            (distinctFrom (freeName taken first :: taken) rest).take i ++ taken := by
        intro name
        simp only [List.mem_append, List.mem_cons, List.cons_append]
        exact or_left_comm
      exact congrArg (Option.map · rest[i]?) (funext (freeName_congr sameNames))

theorem distinctFrom_of_nodup {taken names : List String} (distinct : names.Nodup)
    (fresh : ∀ name ∈ names, name ∉ taken) : distinctFrom taken names = names := by
  induction names generalizing taken with
  | nil => rfl
  | cons first rest ih =>
    obtain ⟨notAgain, later⟩ := List.nodup_cons.mp distinct
    have own : freeName taken first = first := freeName_of_notMem (fresh first List.mem_cons_self)
    have freshRest : ∀ name ∈ rest, name ∉ first :: taken := by
      intro name hn
      rw [List.mem_cons, not_or]
      exact ⟨fun same => notAgain (same ▸ hn), fresh name (List.mem_cons_of_mem first hn)⟩
    rw [distinctFrom, own, ih later freshRest]

/-- The names that come out are as many as go in, and distinct. At each place the trials end: with the
name itself if it has not come out before, else with the name and the least number from two on with
which it has not. No number exceeds the count of names up to its place. Names that came out once stay
as they are. -/
theorem distinct_exact (names : List String) :
    (distinct names).length = names.length ∧ (distinct names).Nodup ∧
    (∀ i name, names[i]? = some name →
      let before := (distinct names).take i
      ∃ result, (distinct names)[i]? = some result ∧
        (∀ other, Trials before name name 2 other ↔ other = result) ∧
        (name ∉ before → result = name) ∧
        (name ∈ before → ∃ n ≤ i + 1, IsLeast {n | 2 ≤ n ∧ numbered name n ∉ before} n ∧
          result = numbered name n)) ∧
    distinct (distinct names) = distinct names := by
  have nodup : (distinct names).Nodup := nodup_distinctFrom [] names
  refine ⟨length_distinctFrom [] names, nodup, ?_, distinctFrom_of_nodup nodup (by simp)⟩
  intro i name here before
  have result : (distinct names)[i]? = some (freeName before name) := by
    rw [distinct, getElem?_distinctFrom, here, List.append_nil]
    rfl
  refine ⟨freeName before name, result, fun _ => trials_iff, freeName_of_notMem, ?_⟩
  intro known
  obtain ⟨n, le, least, numbered⟩ := freeName_isLeast known
  have place : before.length ≤ i := List.length_take_le i _
  exact ⟨n, by omega, least, numbered⟩

/-- Names that look numbered already, before and after those that get their numbers. -/
theorem distinct_exact_lookalikes :
    let names := ["a", "a2", "a", "a", "b", "b", "b2"]
    distinct names = ["a", "a2", "a3", "a4", "b", "b2", "b22"] ∧
    names[2]? = some "a" ∧ "a" ∈ (distinct names).take 2 ∧
    (∃ n ≤ 3, IsLeast {n | 2 ≤ n ∧ numbered "a" n ∉ (distinct names).take 2} n ∧
      "a3" = numbered "a" n) ∧
    names[4]? = some "b" ∧ "b" ∉ (distinct names).take 4 ∧ (distinct names)[4]? = some "b" := by
  intro names
  have out : distinct names = ["a", "a2", "a3", "a4", "b", "b2", "b22"] := by decide +kernel
  have again : "a" ∈ (distinct names).take 2 := by rw [out]; decide
  have new : "b" ∉ (distinct names).take 4 := by rw [out]; decide
  obtain ⟨third, here, _, _, number⟩ := (distinct_exact names).2.2.1 2 "a" rfl
  obtain ⟨fifth, there, _, own, _⟩ := (distinct_exact names).2.2.1 4 "b" rfl
  have third_eq : third = "a3" := by
    rw [out] at here
    exact (Option.some.inj here).symm
  exact ⟨out, rfl, again, third_eq ▸ number again, rfl, new, own new ▸ there⟩

end Exemplar.Naming
