import Exemplar.Inference.Session
import Exemplar.Proofs.UpperCase

/-!
# Names without separators

A spelling in Pascal case has no separator left and begins with a character that is its own upper
case. Such a text is its own spelling: each pass finds one part and capitalizes it to itself. The
name of a class is one, so it is its own spelling too, unless it is blank.
-/
namespace Exemplar.Naming
open Unicode

theorem split_eq_splitOn (separator : Char) (text : List Char) :
    split separator text = text.splitOn separator := by
  induction text with
  | nil => rfl
  | cons c rest ih =>
    rw [split, ih, List.splitOn_cons_eq_if_modifyHead]
    cases parts : rest.splitOn separator with
    | nil => exact absurd parts (List.splitOn_ne_nil separator rest)
    | cons part parts => simp

theorem split_of_notMem {separator : Char} {text : List Char} (h : separator ∉ text) :
    split separator text = [text] := by
  rw [split_eq_splitOn, List.splitOn_eq_singleton h]

/-- A text has at least one part. -/
theorem split_ne_nil (separator : Char) (text : List Char) : split separator text ≠ [] := by
  rw [split_eq_splitOn]
  exact List.splitOn_ne_nil separator text

/-- The parts are made of the characters of the text other than the separator. -/
theorem mem_of_mem_split {separator : Char} {text part : List Char}
    (hp : part ∈ split separator text) {c : Char} (hc : c ∈ part) : c ∈ text ∧ c ≠ separator := by
  induction text generalizing part with
  | nil =>
    cases List.mem_singleton.mp hp
    cases hc
  | cons first rest ih =>
    rw [split] at hp
    cases parts : split separator rest with
    | nil => exact absurd parts (split_ne_nil separator rest)
    | cons head tail =>
      rw [parts] at hp ih
      dsimp only at hp
      have later (part : List Char) (hp : part ∈ head :: tail) (hc : c ∈ part) :
          c ∈ first :: rest ∧ c ≠ separator :=
        ⟨List.mem_cons_of_mem first (ih hp hc).1, (ih hp hc).2⟩
      by_cases same : first = separator
      · rw [if_pos same] at hp
        rcases List.mem_cons.mp hp with rfl | hp
        · cases hc
        · exact later part hp hc
      · rw [if_neg same] at hp
        rcases List.mem_cons.mp hp with rfl | hp
        · rcases List.mem_cons.mp hc with rfl | hc
          · exact ⟨List.mem_cons_self, same⟩
          · exact later head List.mem_cons_self hc
        · exact later part (List.mem_cons_of_mem head hp) hc

theorem head?_capitalize {text : List Char} {c : Char} (h : (capitalize text).head? = some c) :
    upper c = [c] := by
  cases text with
  | nil => cases h
  | cons first rest =>
    obtain ⟨d, more, image⟩ := List.exists_cons_of_ne_nil (upper_ne_nil first)
    have begins : (upper first).head? = some c := by
      rw [capitalize, image] at h
      rw [image]
      exact h
    exact upper_of_head?_upper begins

theorem capitalize_of_head? {text : List Char} (h : ∀ c, text.head? = some c → upper c = [c]) :
    capitalize text = text := by
  cases text with
  | nil => rfl
  | cons first rest => rw [capitalize, h first rfl, List.singleton_append]

theorem mem_of_separator_mem_capitalize {text : List Char} {c : Char}
    (h : c ∈ capitalize text) (separator : c ∈ separators) : c ∈ text := by
  cases text with
  | nil => cases h
  | cons first rest =>
    rcases List.mem_append.mp h with h | h
    · cases eq_of_separator_mem_upper h separator
      exact List.mem_cons_self
    · exact List.mem_cons_of_mem first h

/-- A pass removes its separator and brings in none. -/
theorem mem_of_mem_joinCapitalized {separator : Char} {text : List Char} {c : Char}
    (h : c ∈ joinCapitalized separator text) (hc : c ∈ separators) : c ∈ text ∧ c ≠ separator := by
  obtain ⟨part, hp, h⟩ := List.mem_flatMap.mp h
  exact mem_of_mem_split hp (mem_of_separator_mem_capitalize h hc)

theorem head?_joinCapitalized {separator : Char} {text : List Char} {c : Char}
    (h : (joinCapitalized separator text).head? = some c) : upper c = [c] := by
  rw [joinCapitalized] at h
  generalize split separator text = parts at h
  induction parts with
  | nil => cases h
  | cons part parts ih =>
    rw [List.flatMap_cons, List.head?_append] at h
    cases first : (capitalize part).head? with
    | none =>
      rw [first] at h
      exact ih h
    | some d =>
      rw [first] at h
      cases h
      exact head?_capitalize first

/-- A text without separators whose first character is its own upper case. -/
structure IsPascal (text : List Char) : Prop where
  joined : ∀ s ∈ separators, s ∉ text
  capitalized : ∀ c, text.head? = some c → upper c = [c]

theorem isPascal_pascalChars (text : List Char) : IsPascal (pascalChars text) := by
  rw [pascalChars]
  split
  · exact ⟨fun _ _ => List.not_mem_nil, nofun⟩
  · simp only [separators, List.foldl_cons, List.foldl_nil]
    refine ⟨?_, fun c => head?_joinCapitalized⟩
    intro s hs h
    have notHyphen := mem_of_mem_joinCapitalized h hs
    have notSpace := mem_of_mem_joinCapitalized notHyphen.1 hs
    have notUnderscore := mem_of_mem_joinCapitalized notSpace.1 hs
    rcases List.mem_cons.mp hs with rfl | hs
    · exact notUnderscore.2 rfl
    · rcases List.mem_cons.mp hs with rfl | hs
      · exact notSpace.2 rfl
      · exact notHyphen.2 (List.mem_singleton.mp hs)

theorem isPascal_pascalCase (key : String) : IsPascal (pascalCase key).toList := by
  rw [pascalCase, String.toList_ofList]
  exact isPascal_pascalChars key.toList

theorem IsPascal.joinCapitalized {text : List Char} (pascal : IsPascal text) {s : Char}
    (hs : s ∈ separators) : joinCapitalized s text = text := by
  rw [Naming.joinCapitalized, split_of_notMem (pascal.joined s hs), List.flatMap_singleton,
    capitalize_of_head? pascal.capitalized]

/-- A text in Pascal case is its own spelling, unless it is blank. -/
theorem IsPascal.pascalChars {text : List Char} (pascal : IsPascal text) :
    pascalChars text = if text.all isBlank then [] else text := by
  have kept : separators.foldl (fun text s => Naming.joinCapitalized s text) text = text :=
    List.foldlRecOn (motive := (· = text)) separators _ rfl
      fun _ same _ hs => same.symm ▸ pascal.joinCapitalized hs
  rw [Naming.pascalChars, kept]

end Exemplar.Naming

namespace Exemplar

theorem isPascal_classNameFor (key : String) : Naming.IsPascal (classNameFor key).toList := by
  rw [classNameFor]
  split
  · have own : Naming.pascalCase Naming.anonymous = Naming.anonymous := by decide
    rw [← own]
    exact Naming.isPascal_pascalCase _
  · exact Naming.isPascal_pascalCase key

theorem classNameFor_ne_empty (key : String) : classNameFor key ≠ "" := by
  rw [classNameFor]
  split
  · decide
  · rename_i nonempty
    simpa using nonempty

end Exemplar
