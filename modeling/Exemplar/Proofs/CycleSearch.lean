import Exemplar.Declaration.Cycle
import Mathlib.Logic.Relation

/-!
# The search for cycles

A class holds its parts, and through them what they hold. The search for a class answers exactly
whether it is held, however the classes refer to each other. It closes each class that it meets, so
the invariant speaks of paths through open classes only: what a path needs of a class that is closed
now, it finds again among the parts of that class, which are pending.
-/
namespace Exemplar.Model
open Relation

/-- A registered class with a property, no array, of another class. -/
def HasPart (m : Model) (owner part : String) : Prop :=
  ∃ c, m.get? owner = some c ∧
    ∃ p ∈ c.properties.values, p.isArray = false ∧ p.dataType = .named part

/-- A chain of parts, possibly of none. -/
def Holds (m : Model) : String → String → Prop :=
  ReflTransGen m.HasPart

/-- The parts of open classes. -/
def OpenPart (m : Model) (opened : List String) (owner part : String) : Prop :=
  owner ∈ opened ∧ part ∈ m.partsOf owner

variable (m : Model)

theorem mem_parts_iff (c : Class) (part : String) :
    part ∈ c.parts ↔ ∃ p ∈ c.properties.values, p.isArray = false ∧ p.dataType = .named part := by
  have named (t : DataType) : t.className? = some part ↔ t = .named part := by
    cases t <;> simp [DataType.className?]
  simp only [Class.parts, List.mem_filterMap]
  refine exists_congr fun p => and_congr_right fun _ => ?_
  by_cases array : p.isArray = true
  · simp [array]
  · simp [array, named]

theorem mem_partsOf_iff (owner part : String) : part ∈ m.partsOf owner ↔ m.HasPart owner part := by
  rw [partsOf, HasPart]
  cases m.get? owner with
  | none => simp
  | some c => simp [mem_parts_iff]

theorem HasPart.mem_names {m : Model} {owner part : String} (h : m.HasPart owner part) :
    owner ∈ m.names := by
  obtain ⟨c, registered, _⟩ := h
  rw [mem_names_iff, registered]
  exact Option.some_ne_none c

/-- While all registered classes are open, any part is one of an open class. -/
theorem openPart_names (owner part : String) :
    m.OpenPart m.names owner part ↔ m.HasPart owner part := by
  rw [OpenPart, mem_partsOf_iff]
  constructor
  · exact And.right
  · exact fun has => ⟨has.mem_names, has⟩

section Path
variable {m} {opened : List String} {name start target : String}

theorem OpenPart.of_erase {owner part : String} (h : m.OpenPart (opened.erase name) owner part) :
    m.OpenPart opened owner part :=
  ⟨List.mem_of_mem_erase h.1, h.2⟩

/-- A path goes around a class, or its last piece begins at a part of that class. -/
theorem path_erase (name : String) (path : ReflTransGen (m.OpenPart opened) start target) :
    ReflTransGen (m.OpenPart (opened.erase name)) start target ∨
      ∃ part ∈ m.partsOf name, ReflTransGen (m.OpenPart (opened.erase name)) part target := by
  induction path using ReflTransGen.head_induction_on with
  | refl => exact .inl .refl
  | @head owner part step _ ih =>
    rcases ih with around | through
    · by_cases same : owner = name
      · subst same
        exact .inr ⟨part, step.2, around⟩
      · have stillOpen : owner ∈ opened.erase name := (List.mem_erase_of_ne same).mpr step.1
        exact .inl (.head ⟨stillOpen, step.2⟩ around)
    · exact .inr through

/-- From a class other than the target, a path goes on through one of its parts. -/
theorem path_of_ne (path : ReflTransGen (m.OpenPart opened) name target) (different : name ≠ target) :
    name ∈ opened ∧
      ∃ part ∈ m.partsOf name, ReflTransGen (m.OpenPart (opened.erase name)) part target := by
  have isOpen : name ∈ opened := by
    rcases ReflTransGen.cases_head path with same | ⟨part, step, _⟩
    · exact absurd same different
    · exact step.1
  refine ⟨isOpen, ?_⟩
  rcases path_erase name path with around | through
  · rcases ReflTransGen.cases_head around with same | ⟨part, step, rest⟩
    · exact absurd same different
    · exact ⟨part, step.2, rest⟩
  · exact through

end Path

theorem search_iff (target : String) (opened pending : List String) :
    m.search target opened pending = true ↔
      ∃ start ∈ pending, ReflTransGen (m.OpenPart opened) start target := by
  fun_induction search m target opened pending with
  | case1 opened => simp
  | case2 opened rest =>
    simp only [true_iff]
    exact ⟨target, List.mem_cons_self, .refl⟩
  | case3 opened name rest different isOpen ih =>
    rw [ih]
    constructor
    · rintro ⟨start, member, path⟩
      have wider : ReflTransGen (m.OpenPart opened) start target :=
        ReflTransGen.mono (fun _ _ => OpenPart.of_erase) _ _ path
      rcases List.mem_append.mp member with part | later
      · exact ⟨name, List.mem_cons_self, .head ⟨isOpen, part⟩ wider⟩
      · exact ⟨start, List.mem_cons_of_mem name later, wider⟩
    · rintro ⟨start, member, path⟩
      have further : (∃ part ∈ m.partsOf name,
          ReflTransGen (m.OpenPart (opened.erase name)) part target) ∨
          start ∈ rest ∧ ReflTransGen (m.OpenPart (opened.erase name)) start target := by
        rcases List.mem_cons.mp member with rfl | later
        · exact .inl (path_of_ne path different).2
        · exact (path_erase name path).symm.imp_right fun around => ⟨later, around⟩
      rcases further with ⟨part, hp, through⟩ | ⟨later, around⟩
      · exact ⟨part, List.mem_append_left rest hp, through⟩
      · exact ⟨start, List.mem_append_right _ later, around⟩
  | case4 opened name rest different closed ih =>
    rw [ih]
    constructor
    · rintro ⟨start, member, path⟩
      exact ⟨start, List.mem_cons_of_mem name member, path⟩
    · rintro ⟨start, member, path⟩
      rcases List.mem_cons.mp member with rfl | later
      · exact absurd (path_of_ne path different).1 closed
      · exact ⟨start, later, path⟩

/-- The search from a class finds another exactly if it is held, or the same. -/
theorem closesCycle_iff (start owner : String) :
    m.closesCycle start owner = true ↔ m.Holds start owner := by
  have same : m.OpenPart m.names = m.HasPart :=
    funext₂ fun a b => propext (m.openPart_names a b)
  simp [closesCycle, search_iff, Holds, same]

end Exemplar.Model
