import Exemplar.Proofs.PascalCase

/-!
# One pass instead of three

Splitting a text at one separator after the other, with the parts capitalized each time, is splitting
it once at all separators. The parts of a later pass begin where those of an earlier one did or inside
them, and a capitalized beginning is capitalized to itself, so two passes are a pass over both sets of
separators. The order of the passes makes no difference therefore.
-/
namespace Exemplar.Naming
open Unicode

/-- A pass over a text: what is cut is left out, and what comes after it is capitalized, as is the
beginning of a fresh text. -/
def passFrom (cut : Char → Bool) (fresh : Bool) : List Char → List Char
  | [] => []
  | c :: rest =>
    if cut c then passFrom cut true rest
    else (if fresh then upper c else [c]) ++ passFrom cut false rest

section Pass
variable (cut : Char → Bool)

/-- The first part goes on with what has been read before, unless the text is fresh. -/
theorem passFrom_eq_splitOnP (fresh : Bool) (text : List Char) :
    passFrom cut fresh text = (if fresh then capitalize else id) ((text.splitOnP cut).headD []) ++
      (text.splitOnP cut).tail.flatMap capitalize := by
  induction text generalizing fresh with
  | nil => cases fresh <;> simp [passFrom, capitalize]
  | cons c rest ih =>
    rw [passFrom, List.splitOnP_cons_eq_if_modifyHead, ih, ih]
    cases parts : rest.splitOnP cut with
    | nil => exact absurd parts (List.splitOnP_ne_nil cut rest)
    | cons part parts =>
      by_cases hc : cut c = true
      · cases fresh <;> simp [hc, capitalize]
      · cases fresh <;> simp [hc, capitalize]

theorem flatMap_capitalize_splitOnP (text : List Char) :
    (text.splitOnP cut).flatMap capitalize = passFrom cut true text := by
  rw [passFrom_eq_splitOnP]
  cases parts : text.splitOnP cut with
  | nil => exact absurd parts (List.splitOnP_ne_nil cut text)
  | cons part parts => rfl

theorem joinCapitalized_eq_passFrom (separator : Char) (text : List Char) :
    joinCapitalized separator text = passFrom (· == separator) true text := by
  rw [joinCapitalized, split_eq_splitOn, List.splitOn_eq_splitOnP, flatMap_capitalize_splitOnP]

variable {cut}

theorem passFrom_append {text : List Char} (kept : ∀ c ∈ text, cut c = false) (rest : List Char) :
    passFrom cut false (text ++ rest) = text ++ passFrom cut false rest := by
  induction text with
  | nil => rfl
  | cons c text ih =>
    have own : cut c = false := kept c List.mem_cons_self
    rw [List.cons_append, passFrom, ih fun d hd => kept d (List.mem_cons_of_mem c hd)]
    simp [own]

/-- The image of a character is no longer changed, wherever it stands. -/
theorem passFrom_upper_append (separates : ∀ c, cut c = true → c ∈ separators) {c : Char}
    (kept : cut c = false) (fresh : Bool) (rest : List Char) :
    passFrom cut fresh (upper c ++ rest) = upper c ++ passFrom cut false rest := by
  have keptImage : ∀ d ∈ upper c, cut d = false := by
    intro d hd
    by_contra hidden
    rw [Bool.not_eq_false] at hidden
    have own := eq_of_separator_mem_upper hd (separates d hidden)
    exact Bool.noConfusion (kept.symm.trans (own ▸ hidden))
  obtain ⟨d, more, image⟩ := List.exists_cons_of_ne_nil (upper_ne_nil c)
  have settled : upper d = [d] := upper_of_head?_upper (by rw [image, List.head?_cons])
  rw [image] at keptImage ⊢
  have first : cut d = false := keptImage d List.mem_cons_self
  rw [List.cons_append, passFrom,
    passFrom_append fun e he => keptImage e (List.mem_cons_of_mem d he)]
  simp [first, settled]

theorem upper_of_separator {s : Char} (h : s ∈ separators) : upper s = [s] := by
  have same : separators.all (fun s => upper s == [s]) = true := by decide
  simpa using List.all_eq_true.mp same s h

/-- Two passes are one that cuts what either of them cuts. -/
theorem passFrom_passFrom {later : Char → Bool} (separates : ∀ c, later c = true → c ∈ separators)
    (fresh fresh' : Bool) (text : List Char) :
    passFrom later fresh' (passFrom cut fresh text)
      = passFrom (fun c => cut c || later c) (fresh || fresh') text := by
  induction text generalizing fresh fresh' with
  | nil => rfl
  | cons c rest ih =>
    cases first : cut c with
    | true => simp [passFrom, first, ih]
    | false =>
      cases second : later c with
      | true =>
        -- the earlier pass leaves the separators of the later one as they are
        have own : upper c = [c] := upper_of_separator (separates c second)
        simp [passFrom, first, second, own, ih]
      | false =>
        cases fresh with
        | true => simp [passFrom, first, second, passFrom_upper_append separates second, ih]
        | false => simp [passFrom, first, second, ih]

/-- A pass and those after it, one for each separator in order. -/
theorem foldl_passFrom {order : List Char} (known : ∀ s ∈ order, s ∈ separators)
    (text : List Char) :
    order.foldl (fun text s => joinCapitalized s text) (passFrom cut true text)
      = passFrom (fun c => cut c || decide (c ∈ order)) true text := by
  induction order generalizing cut with
  | nil => simp
  | cons s order ih =>
    have own : ∀ c, (c == s) = true → c ∈ separators := by
      intro c same
      rw [beq_iff_eq.mp same]
      exact known s List.mem_cons_self
    have rest : ∀ t ∈ order, t ∈ separators := fun t ht => known t (List.mem_cons_of_mem s ht)
    rw [List.foldl_cons, joinCapitalized_eq_passFrom, passFrom_passFrom own, Bool.true_or, ih rest]
    congr 1
    funext c
    simp [Bool.or_assoc, Bool.decide_or, beq_eq_decide]

end Pass

/-- The words of a text: what stands between its separators and is not empty. -/
def words (text : List Char) : List (List Char) :=
  (text.splitOnP (· ∈ separators)).filter (!·.isEmpty)

/-- The words of a text capitalized, with nothing between them. -/
theorem flatMap_capitalize_words (text : List Char) :
    (words text).flatMap capitalize = passFrom (· ∈ separators) true text := by
  rw [← flatMap_capitalize_splitOnP, words]
  induction text.splitOnP (· ∈ separators) with
  | nil => rfl
  | cons part parts ih => cases part <;> simp [ih, capitalize]

/-- Passes in any order leave the words, capitalized and joined. -/
theorem foldl_joinCapitalized {order : List Char} (perm : order.Perm separators)
    (text : List Char) :
    order.foldl (fun text s => joinCapitalized s text) text
      = (words text).flatMap capitalize := by
  rw [flatMap_capitalize_words]
  cases order with
  | nil => exact absurd perm.symm.eq_nil (by decide)
  | cons s order =>
    have known : ∀ t ∈ order, t ∈ separators :=
      fun t ht => perm.mem_iff.mp (List.mem_cons_of_mem s ht)
    rw [List.foldl_cons, joinCapitalized_eq_passFrom, foldl_passFrom known]
    congr 1
    funext c
    have same : decide (c ∈ s :: order) = decide (c ∈ separators) :=
      decide_eq_decide.mpr perm.mem_iff
    rw [← same]
    simp [Bool.decide_or, beq_eq_decide]

theorem pascalChars_eq_words {text : List Char} (seen : text.all isBlank = false) :
    pascalChars text = (words text).flatMap capitalize := by
  rw [pascalChars, seen, if_neg Bool.false_ne_true, foldl_joinCapitalized (List.Perm.refl separators)]

/-- The spelling of a key that is not blank is that of a single pass: its words, split at all
separators at once and capitalized. So the order in which the separators are gone through does not
matter. -/
theorem pascalCase_eq_words (key : String) (seen : key.toList.all isBlank = false) :
    pascalCase key = String.ofList ((words key.toList).flatMap capitalize) ∧
    ∀ order : List Char, order.Perm separators →
      String.ofList (order.foldl (fun text s => joinCapitalized s text) key.toList)
        = pascalCase key := by
  have passes : pascalCase key = String.ofList ((words key.toList).flatMap capitalize) := by
    rw [pascalCase, pascalChars_eq_words seen]
  refine ⟨passes, ?_⟩
  intro order perm
  rw [foldl_joinCapitalized perm, passes]

/-- Separators in every mixture, and initials that become two letters. -/
theorem pascalCase_eq_words_ligature :
    let key := "-_ﬁne - tuning__ßx_ "
    key.toList.all isBlank = false ∧
    words key.toList = ["ﬁne".toList, "tuning".toList, "ßx".toList] ∧
    pascalCase key = "FIneTuningSSx" ∧
    String.ofList (['-', '_', ' '].foldl (fun text s => joinCapitalized s text) key.toList)
      = pascalCase key := by
  intro key
  have seen : key.toList.all isBlank = false := by decide
  obtain ⟨passes, orders⟩ := pascalCase_eq_words key seen
  have found : words key.toList = ["ﬁne".toList, "tuning".toList, "ßx".toList] := by decide +kernel
  refine ⟨seen, found, ?_, orders _ (by decide)⟩
  rw [passes, found]
  decide +kernel

end Exemplar.Naming
