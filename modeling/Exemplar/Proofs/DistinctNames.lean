import Exemplar.Naming.Identifier
import Mathlib.Data.List.Nodup
import Mathlib.Data.List.Perm.Subperm

/-!
# Names made distinct

A name that is taken gets the least number, from two on, with which it is free. There is such a
number, for the names with a number are distinct and one more of them is tried than are taken. So the
names that come out are distinct, whatever goes in.
-/
namespace Exemplar.Naming

theorem toList_numbered (name : String) (n : Nat) :
    (numbered name n).toList = name.toList ++ Nat.toDigits 10 n := by
  rw [numbered, String.toList_append, Nat.toString_eq_repr, Nat.toList_repr]

theorem mem_or_isDigit_of_mem_numbered {name : String} {n : Nat} {c : Char}
    (h : c ∈ (numbered name n).toList) : c ∈ name.toList ∨ c.isDigit = true := by
  rw [toList_numbered, List.mem_append] at h
  exact h.imp_right (Nat.isDigit_of_mem_toDigits (by decide) (by decide))

theorem numbered_inj {name : String} {i j : Nat} (h : numbered name i = numbered name j) :
    i = j := by
  have digits : Nat.toDigits 10 i = Nat.toDigits 10 j := by
    have chars := congrArg String.toList h
    rw [toList_numbered, toList_numbered] at chars
    exact List.append_cancel_left chars
  -- reading the digits gives the number back
  simpa using congrArg (Nat.ofDigitChars 10 · 0) digits

theorem nodup_numbered (name : String) (count : Nat) :
    ((List.range count).map fun i => numbered name (i + 2)).Nodup := by
  refine List.Nodup.map ?_ List.nodup_range
  intro i j same
  have := numbered_inj same
  omega

theorem exists_numbered_notMem (taken : List String) (name : String) :
    ∃ i < taken.length + 1, numbered name (i + 2) ∉ taken := by
  by_contra! all
  let tried := (List.range (taken.length + 1)).map fun i => numbered name (i + 2)
  have subset : tried ⊆ taken := by
    intro candidate hc
    obtain ⟨i, hi, rfl⟩ := List.mem_map.mp hc
    exact all i (List.mem_range.mp hi)
  have length := ((nodup_numbered name _).subperm subset).length_le
  simp only [List.length_map, List.length_range] at length
  omega

/-- A name that is taken is numbered, with the least number that makes it free. -/
theorem freeName_of_mem {taken : List String} {name : String} (h : name ∈ taken) :
    ∃ n, 2 ≤ n ∧ freeName taken name = numbered name n ∧ numbered name n ∉ taken ∧
      ∀ k, 2 ≤ k → k < n → numbered name k ∈ taken := by
  let free (i : Nat) : Bool := decide (numbered name (i + 2) ∉ taken)
  cases hf : (List.range (taken.length + 1)).find? free with
  | none =>
    obtain ⟨i, hi, fresh⟩ := exists_numbered_notMem taken name
    have rejected := List.find?_eq_none.mp hf i (List.mem_range.mpr hi)
    simp [free, fresh] at rejected
  | some i =>
    obtain ⟨fresh, _, least⟩ := List.find?_range_eq_some.mp hf
    refine ⟨i + 2, by omega, ?_, by simpa [free] using fresh, ?_⟩
    · have found : (((List.range (taken.length + 1)).map (· + 2)).find?
          (numbered name · ∉ taken)) = some (i + 2) := by
        rw [List.find?_map]
        exact congrArg (Option.map (· + 2)) hf
      rw [freeName, if_pos h]
      simp only [found, Option.getD_some]
    · intro k hk lt
      have taken := least (k - 2) (by omega)
      have back : k - 2 + 2 = k := by omega
      simpa [free, back] using taken

theorem freeName_of_notMem {taken : List String} {name : String} (h : name ∉ taken) :
    freeName taken name = name :=
  if_neg h

/-- The least number is the only one that fits. -/
theorem freeName_eq_numbered {taken : List String} {name : String} {n : Nat} (h : name ∈ taken)
    (two : 2 ≤ n) (fresh : numbered name n ∉ taken)
    (least : ∀ k, 2 ≤ k → k < n → numbered name k ∈ taken) :
    freeName taken name = numbered name n := by
  obtain ⟨i, hi, free, freshAt, leastAt⟩ := freeName_of_mem h
  have same : i = n := by
    rcases Nat.lt_trichotomy i n with lt | eq | gt
    · exact absurd (least i hi lt) freshAt
    · exact eq
    · exact absurd (leastAt n two gt) fresh
  rw [free, same]

theorem freeName_notMem (taken : List String) (name : String) : freeName taken name ∉ taken := by
  by_cases h : name ∈ taken
  · obtain ⟨n, _, numbered, fresh, _⟩ := freeName_of_mem h
    rw [numbered]
    exact fresh
  · rw [freeName_of_notMem h]
    exact h

theorem length_distinctFrom (taken names : List String) :
    (distinctFrom taken names).length = names.length := by
  induction names generalizing taken with
  | nil => rfl
  | cons name rest ih => simp [distinctFrom, ih]

theorem notMem_of_mem_distinctFrom {taken names : List String} {name : String}
    (h : name ∈ distinctFrom taken names) : name ∉ taken := by
  induction names generalizing taken with
  | nil => cases h
  | cons first rest ih =>
    rcases List.mem_cons.mp h with rfl | h
    · exact freeName_notMem taken first
    · exact fun ht => ih h (List.mem_cons_of_mem _ ht)

theorem nodup_distinctFrom (taken names : List String) : (distinctFrom taken names).Nodup := by
  induction names generalizing taken with
  | nil => exact List.nodup_nil
  | cons name rest ih =>
    refine List.nodup_cons.mpr ⟨?_, ih _⟩
    intro again
    exact notMem_of_mem_distinctFrom again List.mem_cons_self

/-- A name that never comes out may be taken from the start. -/
theorem distinctFrom_reserve {reserved : String} {taken more names : List String}
    (more_iff : ∀ name, name ∈ more ↔ name ∈ taken ∨ name = reserved)
    (absent : reserved ∉ distinctFrom taken names) :
    distinctFrom more names = distinctFrom taken names := by
  induction names generalizing taken more with
  | nil => rfl
  | cons first rest ih =>
    rw [distinctFrom, List.mem_cons, not_or] at absent
    obtain ⟨notFirst, notLater⟩ := absent
    have fresh : freeName taken first ∉ more := by
      rw [more_iff, not_or]
      exact ⟨freeName_notMem taken first, Ne.symm notFirst⟩
    have same : freeName more first = freeName taken first := by
      by_cases known : first ∈ taken
      · obtain ⟨n, two, free, _, least⟩ := freeName_of_mem known
        rw [free] at fresh ⊢
        exact freeName_eq_numbered ((more_iff first).mpr (.inl known)) two fresh
          fun k hk lt => (more_iff _).mpr (.inl (least k hk lt))
      · rw [freeName_of_notMem known] at fresh ⊢
        exact freeName_of_notMem fresh
    have moreRest : ∀ name, name ∈ freeName taken first :: more ↔
        name ∈ freeName taken first :: taken ∨ name = reserved := by
      intro name
      rw [List.mem_cons, List.mem_cons, more_iff, or_assoc]
    rw [distinctFrom, distinctFrom, same, ih moreRest notLater]

/-- What is taken or comes out, before and after the first name. -/
theorem mem_append_distinctFrom_cons (taken rest : List String) (first name : String) :
    name ∈ taken ++ distinctFrom taken (first :: rest) ↔
      name ∈ (freeName taken first :: taken) ++
        distinctFrom (freeName taken first :: taken) rest := by
  rw [distinctFrom, List.cons_append, List.mem_append, List.mem_cons, List.mem_cons, List.mem_append]
  exact or_left_comm

/-- A name that comes out is one of those that went in, or one of them with a number; then the name
without a number and those with a lower one are taken or come out too. -/
theorem numbered_of_mem_distinctFrom {taken names : List String} {name : String}
    (h : name ∈ distinctFrom taken names) :
    name ∈ names ∨
      ∃ spelling ∈ names, ∃ n, 2 ≤ n ∧ name = numbered spelling n ∧
        spelling ∈ taken ++ distinctFrom taken names ∧
        ∀ k, 2 ≤ k → k < n → numbered spelling k ∈ taken ++ distinctFrom taken names := by
  induction names generalizing taken with
  | nil => cases h
  | cons first rest ih =>
    rw [distinctFrom] at h
    rcases List.mem_cons.mp h with rfl | h
    · by_cases known : first ∈ taken
      · obtain ⟨n, two, free, _, least⟩ := freeName_of_mem known
        exact .inr ⟨first, List.mem_cons_self, n, two, free, List.mem_append_left _ known,
          fun k hk lt => List.mem_append_left _ (least k hk lt)⟩
      · rw [freeName_of_notMem known]
        exact .inl List.mem_cons_self
    · rcases ih h with own | ⟨spelling, member, n, two, same, before, lower⟩
      · exact .inl (List.mem_cons_of_mem first own)
      · refine .inr ⟨spelling, List.mem_cons_of_mem first member, n, two, same, ?_, ?_⟩
        · exact (mem_append_distinctFrom_cons ..).mpr before
        · intro k hk lt
          exact (mem_append_distinctFrom_cons ..).mpr (lower k hk lt)

/-- What numbers do not change holds of the names that come out if it holds of those that go in. -/
theorem forall_mem_distinct {P : String → Prop} (number : ∀ name n, P name → P (numbered name n))
    {names : List String} (each : ∀ name ∈ names, P name) : ∀ name ∈ distinct names, P name := by
  intro name hn
  rcases numbered_of_mem_distinctFrom hn with own | ⟨spelling, member, n, _, same, _⟩
  · exact each name own
  · rw [same]
    exact number spelling n (each spelling member)

theorem numbered_two_mem_of_mem {taken names : List String} {name : String} (known : name ∈ taken)
    (h : name ∈ names) : numbered name 2 ∈ taken ++ distinctFrom taken names := by
  induction names generalizing taken with
  | nil => cases h
  | cons first rest ih =>
    by_cases free : numbered name 2 ∈ taken
    · exact List.mem_append_left _ free
    · rw [mem_append_distinctFrom_cons]
      by_cases same : first = name
      · subst same
        have second : freeName taken first = numbered first 2 :=
          freeName_eq_numbered known (Nat.le_refl 2) free fun k hk lt => by omega
        rw [second]
        exact List.mem_cons_self
      · have inRest := (List.mem_cons.mp h).resolve_left (Ne.symm same)
        exact ih (List.mem_cons_of_mem (freeName taken first) known) inRest

/-- Of a name that goes in twice the second number comes out, from one name or another. -/
theorem numbered_two_mem_distinct {names : List String} {name : String}
    (twice : 2 ≤ names.count name) : numbered name 2 ∈ distinct names := by
  have general (taken : List String) : numbered name 2 ∈ taken ++ distinctFrom taken names := by
    induction names generalizing taken with
    | nil => simp at twice
    | cons first rest ih =>
      rw [mem_append_distinctFrom_cons]
      by_cases same : first = name
      · subst same
        have again : first ∈ rest := by
          rw [List.count_cons_self] at twice
          exact List.count_pos_iff.mp (by omega)
        have known : first ∈ freeName taken first :: taken := by
          by_cases old : first ∈ taken
          · exact List.mem_cons_of_mem _ old
          · rw [freeName_of_notMem old]
            exact List.mem_cons_self
        exact numbered_two_mem_of_mem known again
      · rw [List.count_cons_of_ne same] at twice
        exact ih twice _
  simpa [distinct] using general []

end Exemplar.Naming
