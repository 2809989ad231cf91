import Exemplar.Proofs.ClassNames
import Exemplar.Proofs.LeadingNumerals

/-!
# Names of names

The name of a class is in Pascal case and thus its own spelling, so given again as a key it names
the same class, unless it is blank. That a key is not blank is seen before its separators are taken
out: an underscore or a hyphen next to a blank other than the space leaves a blank name, and only
that name is found to have no words. What can be seen in a key can be seen in its spelling, so there
are no other such keys.
-/
namespace Exemplar

namespace Naming
open Unicode

/-- Neither blank nor a separator. -/
def isVisible (c : Char) : Bool :=
  !isBlank c && decide (c ∉ separators)

theorem isVisible_of_isAlphanumeric {c : Char} (h : isAlphanumeric c = true) :
    isVisible c = true := by
  have seen : isBlank c = false := by
    by_contra blank
    have hidden := not_isIdentifierPart_of_isBlank (Bool.not_eq_false _ ▸ blank)
    exact Bool.noConfusion (hidden.symm.trans (isIdentifierPart_of_isAlphanumeric h))
  have kept : c ∉ separators := fun separator =>
    Bool.noConfusion (h.symm.trans (not_isAlphanumeric_of_separator separator))
  simp [isVisible, seen, kept]

theorem any_isVisible_upper (c : Char) : (upper c).any isVisible = isVisible c := by
  rcases CaseMapping.keepsKinds_toUpperCase.image_cases c with
    same | ⟨d, rest, image, letter, letter', _⟩
  · simp [upper, same]
  · have before := isVisible_of_isAlphanumeric (isAlphanumeric_of_isAlphabetic letter)
    have after := isVisible_of_isAlphanumeric (isAlphanumeric_of_isAlphabetic letter')
    rw [upper, image, List.any_cons, after, before, Bool.true_or]

theorem any_isVisible_capitalize (text : List Char) :
    (capitalize text).any isVisible = text.any isVisible := by
  cases text with
  | nil => rfl
  | cons c rest => rw [capitalize, List.any_append, any_isVisible_upper, List.any_cons]

theorem any_isVisible_joinCapitalized {separator : Char} (h : separator ∈ separators)
    (text : List Char) : (joinCapitalized separator text).any isVisible = text.any isVisible := by
  have hidden : isVisible separator = false := by simp [isVisible, h]
  have parts : ((split separator text).flatMap capitalize).any isVisible
      = (split separator text).flatten.any isVisible := by
    simp [List.any_flatMap, List.any_flatten, any_isVisible_capitalize]
  rw [joinCapitalized, parts, flatten_split, List.any_filter]
  congr 1
  funext c
  by_cases same : c = separator
  · simp [same, hidden]
  · simp [same]

theorem any_isVisible_of_blank {text : List Char} (blank : text.all isBlank = true) :
    text.any isVisible = false := by
  rw [List.any_eq_false]
  intro c hc
  simp [isVisible, List.all_eq_true.mp blank c hc]

/-- A spelling in Pascal case can be seen exactly if its text can. -/
theorem any_isVisible_pascalChars (text : List Char) :
    (pascalChars text).any isVisible = text.any isVisible := by
  rw [pascalChars]
  split
  · rename_i blank
    rw [any_isVisible_of_blank blank]
    rfl
  · exact List.foldlRecOn (motive := fun spelling : List Char =>
      spelling.any isVisible = text.any isVisible) separators _ rfl
      fun _ same _ hs => (any_isVisible_joinCapitalized hs _).trans same

section Hidden
variable {text : List Char} (hidden : text.any isVisible = false)
include hidden

/-- Of a text that cannot be seen a pass only removes the separators. -/
theorem joinCapitalized_of_hidden (separator : Char) :
    joinCapitalized separator text = text.filter (· ≠ separator) := by
  have kept : ∀ part ∈ split separator text, capitalize part = part := by
    intro part hp
    apply capitalize_of_head?
    intro c first
    have member : c ∈ text := (mem_of_mem_split hp (List.mem_of_mem_head? first)).1
    have sign : isAlphanumeric c = false := by
      by_contra part
      have seen := isVisible_of_isAlphanumeric (Bool.not_eq_false _ ▸ part)
      exact List.any_eq_false.mp hidden c member seen
    exact image_of_not_isAlphanumeric CaseMapping.keepsKinds_toUpperCase sign
  rw [joinCapitalized, List.flatMap_def, List.map_congr_left kept, List.map_id', flatten_split]

/-- Only the blanks other than the space are left of it, unless it is blank. -/
theorem pascalChars_of_hidden :
    pascalChars text = if text.all isBlank then [] else text.filter (· ∉ separators) := by
  have stillHidden {kept : Char → Bool} {text : List Char} (hidden : text.any isVisible = false) :
      (text.filter kept).any isVisible = false := by
    rw [List.any_eq_false] at hidden ⊢
    exact fun c hc => hidden c (List.mem_of_mem_filter hc)
  have passes : separators.foldl (fun text s => joinCapitalized s text) text
      = text.filter (· ∉ separators) := by
    simp only [separators, List.foldl_cons, List.foldl_nil]
    rw [joinCapitalized_of_hidden hidden, joinCapitalized_of_hidden (stillHidden hidden),
      joinCapitalized_of_hidden (stillHidden (stillHidden hidden)), List.filter_filter,
      List.filter_filter]
    apply List.filter_congr
    intro c _
    simp [Bool.and_comm, Bool.and_assoc]
  rw [pascalChars, passes]

end Hidden

/-- A key has no words exactly if it is blank or made of separators only. -/
theorem pascalChars_eq_nil_iff (text : List Char) :
    pascalChars text = [] ↔ text.all isBlank = true ∨ text.all (· ∈ separators) = true := by
  constructor
  · intro empty
    -- nothing can be seen in the spelling, so nothing can in the text
    have hidden : text.any isVisible = false := by
      rw [← any_isVisible_pascalChars, empty]
      rfl
    rw [pascalChars_of_hidden hidden] at empty
    by_cases blank : text.all isBlank = true
    · exact .inl blank
    · rw [if_neg blank, List.filter_eq_nil_iff] at empty
      exact .inr (List.all_eq_true.mpr fun c hc => by simpa using empty c hc)
  · rintro (blank | separated)
    · rw [pascalChars, if_pos blank]
    · have hidden : text.any isVisible = false := by
        rw [List.any_eq_false]
        intro c hc
        simpa [isVisible] using fun _ => of_decide_eq_true (List.all_eq_true.mp separated c hc)
      have none : text.filter (· ∉ separators) = [] := by
        rw [List.filter_eq_nil_iff]
        intro c hc
        simpa using of_decide_eq_true (List.all_eq_true.mp separated c hc)
      rw [pascalChars_of_hidden hidden, none]
      split <;> rfl

/-- Without separators only blanks cannot be seen. -/
theorem IsPascal.all_isBlank {text : List Char} (pascal : IsPascal text) :
    text.all isBlank = !text.any isVisible := by
  rw [List.not_any_eq_all_not, Bool.eq_iff_iff, List.all_eq_true, List.all_eq_true]
  refine forall₂_congr fun c hc => ?_
  have kept : c ∉ separators := fun separator => pascal.joined c separator hc
  simp [isVisible, kept]

end Naming

open Naming

/-- The key is made of separators and blanks, but neither of blanks nor of separators alone. Such a
key has a blank name. -/
def leavesBlank (key : String) : Bool :=
  !key.toList.any isVisible && !key.toList.all Unicode.isBlank && !key.toList.all (· ∈ separators)

theorem pascalCase_eq_empty_iff (key : String) :
    pascalCase key = "" ↔
      key.toList.all Unicode.isBlank = true ∨ key.toList.all (· ∈ separators) = true := by
  rw [← pascalChars_eq_nil_iff, pascalCase, ← String.toList_inj, String.toList_ofList]
  rfl

theorem all_isBlank_anonymous : anonymous.toList.all Unicode.isBlank = false := by
  decide

theorem all_isBlank_classNameFor (key : String) :
    (classNameFor key).toList.all Unicode.isBlank = leavesBlank key := by
  by_cases empty : pascalCase key = ""
  · have name : classNameFor key = anonymous := by simp [classNameFor, empty]
    rw [name, all_isBlank_anonymous, leavesBlank]
    rcases (pascalCase_eq_empty_iff key).mp empty with blank | separated
    · simp [blank]
    · simp [separated]
  · have name : classNameFor key = pascalCase key := by simp [classNameFor, empty]
    have words : ¬ (key.toList.all Unicode.isBlank = true ∨
        key.toList.all (· ∈ separators) = true) := fun none =>
      empty ((pascalCase_eq_empty_iff key).mpr none)
    obtain ⟨seen, kept⟩ := not_or.mp words
    rw [name, (isPascal_pascalCase key).all_isBlank, pascalCase, String.toList_ofList,
      any_isVisible_pascalChars, leavesBlank, Bool.eq_false_iff.mpr seen,
      Bool.eq_false_iff.mpr kept]
    simp

/-- The name of a class is its own name, unless it is blank. -/
theorem classNameFor_classNameFor (key : String) :
    classNameFor (classNameFor key) = if leavesBlank key then anonymous else classNameFor key := by
  have spelling := (isPascal_classNameFor key).pascalChars
  rw [all_isBlank_classNameFor] at spelling
  rw [classNameFor, pascalCase, spelling]
  cases leavesBlank key with
  | true => rfl
  | false => simp [classNameFor_ne_empty]

theorem classNameFor_of_leavesBlank {key : String} (h : leavesBlank key = true) :
    classNameFor key = String.ofList (key.toList.filter (· ∉ separators)) := by
  have blank := all_isBlank_classNameFor key
  rw [h] at blank
  simp only [leavesBlank, Bool.and_eq_true, Bool.not_eq_true'] at h
  obtain ⟨⟨hidden, seen⟩, _⟩ := h
  have words : pascalCase key = String.ofList (key.toList.filter (· ∉ separators)) := by
    rw [pascalCase, pascalChars_of_hidden hidden, if_neg (Bool.eq_false_iff.mp seen)]
  rw [classNameFor]
  split
  · rename_i empty
    rw [classNameFor, if_pos empty, all_isBlank_anonymous] at blank
    cases blank
  · exact words

theorem classNameFor_classNameFor_eq_iff (key : String) :
    classNameFor (classNameFor key) = classNameFor key ↔ leavesBlank key = false := by
  have twice := classNameFor_classNameFor key
  have blank := all_isBlank_classNameFor key
  cases h : leavesBlank key with
  | true =>
    rw [h, if_pos rfl] at twice
    rw [h] at blank
    refine iff_of_false ?_ nofun
    intro same
    rw [← same, twice, all_isBlank_anonymous] at blank
    cases blank
  | false =>
    rw [h, if_neg Bool.false_ne_true] at twice
    exact iff_of_true twice rfl

/-- The name of a class, given again as a key or a root, names the same class, unless it is blank,
and then it names the anonymous class. A name is blank exactly if its key is made of separators and
blanks and neither of separators nor of blanks alone: then the blanks other than the space are the
name. A key of blanks or of separators alone names the anonymous class. Every class of a session is
the class of such a key or of one whose name is stable. -/
theorem names_stable_iff (key : String) :
    (classNameFor (classNameFor key) = if leavesBlank key then anonymous else classNameFor key) ∧
    (classNameFor (classNameFor key) = classNameFor key ↔ leavesBlank key = false) ∧
    (leavesBlank key = true →
      classNameFor key = String.ofList (key.toList.filter (· ∉ separators))) ∧
    (key.toList.all Unicode.isBlank = true ∨ key.toList.all (· ∈ separators) = true →
      classNameFor key = anonymous) ∧
    ∀ singular steps, ∀ n ∈ (Session.run singular ∅ steps).model.names,
      ∃ other, n = classNameFor other ∧ n.toList.all Unicode.isBlank = leavesBlank other ∧
        (classNameFor n = n ↔ leavesBlank other = false) := by
  refine ⟨classNameFor_classNameFor key, classNameFor_classNameFor_eq_iff key,
    classNameFor_of_leavesBlank, ?_, ?_⟩
  · intro none
    simp [classNameFor, (pascalCase_eq_empty_iff key).mpr none]
  · intro singular steps n hn
    rw [Session.run_eq_observeAll] at hn
    obtain ⟨other, rfl⟩ := exists_key_of_mem_names singular _ hn
    exact ⟨other, rfl, all_isBlank_classNameFor other, classNameFor_classNameFor_eq_iff other⟩

/-- Names that begin with what upper case makes of one character, and one with a blank in front. -/
theorem names_stable_iff_ligature :
    let value : Json.Value := .object
      [("ﬁrst_ǆ", .object []), ("-\t__ßx", .object []), ("__", .object [])]
    let names := (Session.run Naming.singular ∅ [.observe "my_root" value]).model.names
    names = ["MyRoot", "FIrstǄ", "\tSSx", "Anonymous"] ∧ ∀ n ∈ names, classNameFor n = n := by
  intro value names
  have registered : names = ["MyRoot", "FIrstǄ", "\tSSx", "Anonymous"] := by decide +kernel
  refine ⟨registered, ?_⟩
  intro n hn
  obtain ⟨_, _, _, _, sessions⟩ := names_stable_iff "my_root"
  obtain ⟨other, _, blank, stable⟩ := sessions Naming.singular [.observe "my_root" value] n hn
  have seen : ∀ n ∈ names, n.toList.all Unicode.isBlank = false := by
    rw [registered]
    decide
  exact stable.mpr (blank.symm.trans (seen n hn))

/-- A tab behind an underscore is a class of that name, and the tab is the key of another class. -/
theorem name_not_stable :
    leavesBlank "_\t" = true ∧ classNameFor "_\t" = "\t" ∧ classNameFor "\t" = "Anonymous" ∧
    (Session.run Naming.singular ∅ [.observe "_\t" (.object [])]).model.names = ["\t"] ∧
    ¬ ∀ key, classNameFor (classNameFor key) = classNameFor key := by
  have blank : leavesBlank "_\t" = true := by decide
  refine ⟨blank, by decide, by decide, by decide, ?_⟩
  intro stable
  exact absurd (stable "_\t") (by decide)

end Exemplar
