import Exemplar.Proofs.FiniteSize

/-!
# Boxed fields

The search that decides on a box can be run with a stack of names and a record of those that were
visited. The stack grows when a class is visited and may hold a name several times, but a class is
expanded once only, so the rounds end; they give the answer of the search, for what is open is what is
not visited. As the search is exact, a field is boxed if it leads back to its owner, and no other is.
-/
namespace Exemplar
open Relation

namespace Model

/-- The rounds of a search with a stack, the next name first. A name that is met for the first time,
registered or not, is visited, and its parts are put on the stack one after the other. -/
inductive Rounds (m : Model) (owner : String) : List String → List String → Bool → Prop where
  | exhausted {visited : List String} : Rounds m owner [] visited false
  | found {rest visited : List String} : Rounds m owner (owner :: rest) visited true
  | again {name : String} {rest visited : List String} {answer : Bool} (other : name ≠ owner)
      (known : name ∈ visited) (later : Rounds m owner rest visited answer) :
      Rounds m owner (name :: rest) visited answer
  | first {name : String} {rest visited : List String} {answer : Bool} (other : name ≠ owner)
      (new : name ∉ visited)
      (later : Rounds m owner ((m.partsOf name).reverse ++ rest) (name :: visited) answer) :
      Rounds m owner (name :: rest) visited answer

/-- The registered classes that are not visited yet. -/
def unvisited (m : Model) (visited : List String) : List String :=
  m.names.filter (· ∉ visited)

variable (m : Model)

/-- The parts of a class by its properties; one that is not registered has none of either. -/
theorem hasPart_iff {owner part : String} :
    m.HasPart owner part ↔ ∃ p ∈ (m.classOf owner).properties.values,
      p.isArray = false ∧ p.dataType = .named part := by
  cases h : m.get? owner with
  | none => simp [HasPart, classOf, h, Class.new, Dict.values, Dict.empty]
  | some c => simp [HasPart, classOf, h]

theorem partsOf_of_notMem {name : String} (h : name ∉ m.names) : m.partsOf name = [] := by
  rw [mem_names_iff, not_not] at h
  rw [partsOf, h]

theorem mem_unvisited {visited : List String} {name : String} :
    name ∈ m.unvisited visited ↔ name ∈ m.names ∧ name ∉ visited := by
  simp [unvisited]

theorem unvisited_cons (visited : List String) (name : String) :
    m.unvisited (name :: visited) = (m.unvisited visited).erase name := by
  have distinct : (m.unvisited visited).Nodup := List.Nodup.filter _ m.classes.nodup
  rw [distinct.erase_eq_filter, unvisited, unvisited, List.filter_filter]
  apply List.filter_congr
  intro other _
  by_cases same : other = name <;> simp [same]

/-- To visit a name that is not registered leaves as many classes unvisited. -/
theorem unvisited_cons_of_notMem (visited : List String) {name : String} (h : name ∉ m.names) :
    m.unvisited (name :: visited) = m.unvisited visited := by
  rw [unvisited_cons, List.erase_of_not_mem]
  exact fun isOpen => h (m.mem_unvisited.mp isOpen).1

section Search
variable {owner name : String} {opened rest : List String}

theorem search_of_mem (other : name ≠ owner) (h : name ∈ opened) :
    m.search owner opened (name :: rest)
      = m.search owner (opened.erase name) (m.partsOf name ++ rest) := by
  rw [search, if_neg other, if_pos h]

theorem search_of_notMem (other : name ≠ owner) (h : name ∉ opened) :
    m.search owner opened (name :: rest) = m.search owner opened rest := by
  rw [search, if_neg other, if_neg h]

/-- It matters which names are pending, not in which order. -/
theorem search_congr (owner : String) (opened : List String) {pending others : List String}
    (same : ∀ name, name ∈ pending ↔ name ∈ others) :
    m.search owner opened pending = m.search owner opened others := by
  rw [Bool.eq_iff_iff, search_iff, search_iff]
  exact exists_congr fun name => and_congr_left' (same name)

end Search

theorem answer_of_rounds {m : Model} {owner : String} {pending visited : List String}
    {answer : Bool} (rounds : m.Rounds owner pending visited answer) :
    answer = m.search owner (m.unvisited visited) pending := by
  induction rounds with
  | exhausted => rw [search]
  | found => rw [search, if_pos rfl]
  | @again name rest visited answer other known _ ih =>
    have closed : name ∉ m.unvisited visited := fun h => (m.mem_unvisited.mp h).2 known
    rw [ih, search_of_notMem m other closed]
  | @first name rest visited answer other new _ ih =>
    rw [ih]
    -- a name that is not registered is visited, but it was never open and has no parts
    by_cases registered : name ∈ m.names
    · rw [search_of_mem m other (m.mem_unvisited.mpr ⟨registered, new⟩), unvisited_cons]
      exact m.search_congr owner _ (by simp)
    · have closed : name ∉ m.unvisited visited := fun h => registered (m.mem_unvisited.mp h).1
      rw [search_of_notMem m other closed, m.unvisited_cons_of_notMem visited registered,
        m.partsOf_of_notMem registered]
      rfl

/-- The rounds end: with each class that is visited fewer are left, and otherwise the stack gets
shorter. -/
theorem exists_rounds (owner : String) (pending visited : List String) :
    ∃ answer, m.Rounds owner pending visited answer := by
  match pending with
  | [] => exact ⟨false, .exhausted⟩
  | name :: rest =>
    by_cases same : name = owner
    · exact ⟨true, same ▸ .found⟩
    by_cases known : name ∈ visited
    · obtain ⟨answer, later⟩ := exists_rounds owner rest visited
      exact ⟨answer, .again same known later⟩
    · obtain ⟨answer, later⟩ :=
        exists_rounds owner ((m.partsOf name).reverse ++ rest) (name :: visited)
      exact ⟨answer, .first same known later⟩
termination_by ((m.unvisited visited).length, pending.length)
decreasing_by
  · exact Prod.Lex.right _ (Nat.lt_succ_self _)
  · by_cases registered : name ∈ m.names
    · have isOpen := m.mem_unvisited.mpr ⟨registered, known⟩
      apply Prod.Lex.left
      rw [unvisited_cons, List.length_erase_of_mem isOpen]
      exact Nat.sub_lt (List.length_pos_of_mem isOpen) Nat.one_pos
    · rw [m.unvisited_cons_of_notMem visited registered, m.partsOf_of_notMem registered]
      exact Prod.Lex.right _ (Nat.lt_succ_self _)

/-- The rounds from a single name end, and with the answer of the search only. -/
theorem rounds_iff (start owner : String) (answer : Bool) :
    m.Rounds owner [start] [] answer ↔ answer = m.closesCycle start owner := by
  have all : m.unvisited [] = m.names := by simp [unvisited]
  have answered {answer : Bool} (rounds : m.Rounds owner [start] [] answer) :
      answer = m.closesCycle start owner := by
    rw [answer_of_rounds rounds, all, closesCycle]
  constructor
  · exact answered
  · rintro rfl
    obtain ⟨answer, rounds⟩ := m.exists_rounds owner [start] []
    exact answered rounds ▸ rounds

end Model

namespace Declaration.Rust
variable (m : Model)

theorem fieldType_eq_boxed_iff (owner : String) (p : Property) :
    fieldType m owner p = "Option<Box<" ++ baseType p.dataType ++ ">>" ↔
      p.isArray = false ∧ ∃ part, p.dataType = .named part ∧ m.closesCycle part owner = true := by
  have bare := wrapped_ne "Option<Box<" ">>" (baseType p.dataType) (by decide)
  have vector : "Vec<" ++ baseType p.dataType ++ ">" ≠
      "Option<Box<" ++ baseType p.dataType ++ ">>" := by
    intro same
    have begin := congrArg (·.toList.head?) same
    simp at begin
  rw [fieldType]
  by_cases array : p.isArray = true
  · simp [array, vector]
  · cases type : p.dataType with
    | named part =>
      rw [type] at bare
      by_cases cycle : m.closesCycle part owner = true
      · simp [array, DataType.className?, cycle]
      · simp [array, DataType.className?, cycle, bare.symm]
    | _ =>
      rw [type] at bare
      simp [array, DataType.className?, bare.symm]

/-- The search for a cycle answers exactly whether one class leads to another, and as a loop with a
stack it ends with that answer. So a field is boxed exactly if it is no array and leads back to its
owner, and a class has such a field exactly if it lies on a cycle. -/
theorem boxed_iff_leadsBack :
    (∀ start owner answer, m.Rounds owner [start] [] answer ↔ answer = m.closesCycle start owner) ∧
    (∀ start owner, m.closesCycle start owner = true ↔ m.Holds start owner) ∧
    (∀ owner p, fieldType m owner p = "Option<Box<" ++ baseType p.dataType ++ ">>" ↔
      p.isArray = false ∧ ∃ part, p.dataType = .named part ∧ m.Holds part owner) ∧
    ∀ owner, (∃ p ∈ (m.classOf owner).properties.values,
        fieldType m owner p = "Option<Box<" ++ baseType p.dataType ++ ">>") ↔
      TransGen m.HasPart owner owner := by
  have boxed (owner : String) (p : Property) :
      fieldType m owner p = "Option<Box<" ++ baseType p.dataType ++ ">>" ↔
        p.isArray = false ∧ ∃ part, p.dataType = .named part ∧ m.Holds part owner := by
    rw [fieldType_eq_boxed_iff]
    simp only [m.closesCycle_iff]
  refine ⟨m.rounds_iff, m.closesCycle_iff, boxed, ?_⟩
  intro owner
  rw [TransGen.head'_iff]
  constructor
  · rintro ⟨p, member, box⟩
    obtain ⟨single, part, type, back⟩ := (boxed owner p).mp box
    exact ⟨part, m.hasPart_iff.mpr ⟨p, member, single, type⟩, back⟩
  · rintro ⟨part, has, back⟩
    obtain ⟨p, member, single, type⟩ := m.hasPart_iff.mp has
    exact ⟨p, member, (boxed owner p).mpr ⟨single, part, type, back⟩⟩

end Declaration.Rust

end Exemplar
