import Exemplar.Proofs.UpperCase
import Mathlib.Data.List.Chain

/-!
# Underscores in snake case

Snake case writes the lower case of every character that separates no words, and underscores between
them. An underscore is written only if what was written last is none, so there are never two in a row.
None stands at the beginning either, which is no rule of its own: the beginning counts as an underscore.
-/
namespace Exemplar.Naming
open Unicode

theorem writesWords_toLowerCase : toLowerCase.WritesWords := by
  rw [CaseMapping.WritesWords]
  decide +kernel

theorem notMem_separators_of_mem_lower {c e : Char} (word : c ∉ separators) (h : e ∈ lower c) :
    e ∉ separators := by
  intro separator
  rw [writesWords_toLowerCase.eq_of_separator_mem h separator] at word
  exact word separator

theorem underscore_notMem_lower {c : Char} (word : c ∉ separators) : '_' ∉ lower c :=
  fun h => notMem_separators_of_mem_lower word h List.mem_cons_self

/-- No underscore follows another one, or the last character written before the text; if nothing was
written the text does not begin with one. -/
def Spaced (last : Option Char) (text : List Char) : Prop :=
  (last.getD '_' :: text).IsChain fun a b => ¬ (a = '_' ∧ b = '_')

section Spaced
variable {last : Option Char}

theorem spaced_nil : Spaced last [] :=
  .singleton _

theorem spaced_of_notMem {text : List Char} (none : '_' ∉ text) : Spaced last text := by
  induction text generalizing last with
  | nil => exact spaced_nil
  | cons c text ih =>
    rw [List.mem_cons, not_or] at none
    have rest : Spaced (some c) text := ih none.2
    exact .cons_cons (fun both => none.1 both.2.symm) rest

theorem spaced_wordGap : Spaced last (wordGap last) := by
  cases last with
  | none => exact spaced_nil
  | some c =>
    by_cases underscore : c = '_'
    · simp [wordGap, underscore, spaced_nil]
    · simp [wordGap, underscore, Spaced]

theorem Spaced.append {first second : List Char} (before : Spaced last first)
    (after : Spaced (first.getLast?.or last) second) : Spaced last (first ++ second) := by
  obtain ⟨next, rest⟩ := List.isChain_cons.mp after
  have joint : (last.getD '_' :: first).getLast? = some ((first.getLast?.or last).getD '_') := by
    rw [List.getLast?_cons]
    cases first.getLast? <;> rfl
  refine List.IsChain.append before rest ?_
  intro c hc
  rw [joint] at hc
  cases hc
  exact next

end Spaced

theorem spaced_snakeFrom (last previous : Option Char) (text : List Char) :
    Spaced last (snakeFrom last previous text) := by
  induction text generalizing last previous with
  | nil => exact spaced_nil
  | cons c rest ih =>
    rw [snakeFrom]
    by_cases separator : c ∈ separators
    · rw [if_pos separator]
      exact spaced_wordGap.append (ih _ _)
    · rw [if_neg separator]
      -- only the gap can hold an underscore, so the letters may follow whatever was written
      have gap : Spaced last (if startsWord previous c rest.head? then wordGap last else []) := by
        split
        · exact spaced_wordGap
        · exact spaced_nil
      have letters := gap.append (spaced_of_notMem (underscore_notMem_lower separator))
      exact letters.append (ih _ _)

theorem filter_wordGap (last : Option Char) : (wordGap last).filter (· ≠ '_') = [] := by
  cases last with
  | none => rfl
  | some c => by_cases underscore : c = '_' <;> simp [wordGap, underscore]

/-- Nothing is written but underscores and the lower case of what is read. -/
theorem filter_snakeFrom (last previous : Option Char) (text : List Char) :
    (snakeFrom last previous text).filter (· ≠ '_')
      = (text.filter (· ∉ separators)).flatMap lower := by
  induction text generalizing last previous with
  | nil => rfl
  | cons c rest ih =>
    rw [snakeFrom]
    by_cases separator : c ∈ separators
    · rw [if_pos separator, List.filter_append, filter_wordGap, List.nil_append, ih,
        List.filter_cons_of_neg (by simpa using separator)]
    · have gap : (if startsWord previous c rest.head? then wordGap last else []).filter (· ≠ '_')
          = [] := by
        split
        · exact filter_wordGap last
        · rfl
      have letters : (lower c).filter (· ≠ '_') = lower c := by
        rw [List.filter_eq_self]
        intro d hd
        have other : d ≠ '_' := by
          rintro rfl
          exact underscore_notMem_lower separator hd
        exact decide_eq_true other
      rw [if_neg separator, List.filter_append, List.filter_append, gap, letters, List.nil_append,
        ih, List.filter_cons_of_pos (by simpa using separator), List.flatMap_cons]

/-- Snake case has no spaces and no hyphens, no underscore at the beginning and no two in a row. Without
its underscores it is the text without its separators, each character in lower case. -/
theorem snakeCase_moves_separators (text : String) :
    let snake := (snakeCase text).toList
    ' ' ∉ snake ∧ '-' ∉ snake ∧ snake.head? ≠ some '_' ∧ ¬ ['_', '_'] <:+: snake ∧
    snake.filter (· ≠ '_') = (text.toList.filter (· ∉ separators)).flatMap lower := by
  intro snake
  have chars : snake = snakeFrom none none text.toList := String.toList_ofList
  have letters : snake.filter (· ≠ '_') = (text.toList.filter (· ∉ separators)).flatMap lower := by
    rw [chars, filter_snakeFrom]
  have spaced : Spaced none snake := chars ▸ spaced_snakeFrom none none text.toList
  have kept {d : Char} (separator : d ∈ separators) (other : d ≠ '_') : d ∉ snake := by
    intro written
    have letter : d ∈ snake.filter (· ≠ '_') := List.mem_filter.mpr ⟨written, decide_eq_true other⟩
    rw [letters] at letter
    obtain ⟨c, hc, image⟩ := List.mem_flatMap.mp letter
    have word : c ∉ separators := of_decide_eq_true (List.mem_filter.mp hc).2
    exact notMem_separators_of_mem_lower word image separator
  refine ⟨kept (by decide) (by decide), kept (by decide) (by decide), ?_, ?_, letters⟩
  · intro first
    exact (List.isChain_cons.mp spaced).1 '_' first ⟨rfl, rfl⟩
  · rintro ⟨before, after, both⟩
    have inside := (List.isChain_cons.mp spaced).2
    rw [← both, List.append_assoc] at inside
    exact (List.isChain_append_cons_cons.mp inside).2.1 ⟨rfl, rfl⟩

end Exemplar.Naming
