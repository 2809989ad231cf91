import Exemplar.Model

/-! Which classes a class holds in itself, directly or through others. A class that holds itself has
no finite size unless the reference is boxed. -/
namespace Exemplar

/-- The classes of the properties of a class that are not arrays. -/
def Class.parts (c : Class) : List String :=
  c.properties.values.filterMap fun p => if p.isArray then none else p.dataType.className?

namespace Model

/-- The parts of a class by name; a class that is not registered has none. -/
def partsOf (m : Model) (name : String) : List String :=
  match m.get? name with
  | some c => c.parts
  | none => []

/-- Searches for `target` from the pending names. Only names that are still open lead on, and each
is closed when it is first met. -/
def search (m : Model) (target : String) (opened pending : List String) : Bool :=
  match pending with
  | [] => false
  | name :: rest =>
    if name = target then true
    else if name ∈ opened then m.search target (opened.erase name) (m.partsOf name ++ rest)
    else m.search target opened rest
termination_by (opened.length, pending.length)
decreasing_by
  · rename_i h
    have hlt : (opened.erase name).length < opened.length := by
      rw [List.length_erase_of_mem h]
      exact Nat.sub_lt (List.length_pos_of_mem h) Nat.one_pos
    exact Prod.Lex.left _ _ hlt
  · exact Prod.Lex.right _ (by simp)

/-- Whether `start` is `owner` or holds it in some depth. -/
def closesCycle (m : Model) (start owner : String) : Bool :=
  m.search owner m.names [start]

end Model

end Exemplar
