import Exemplar.Proofs.Declared
import Exemplar.Proofs.MemberNames

/-!
# Members and the type around them

In C# a member may not have the name of its class. It is renamed if it would, but namesakes are
numbered afterwards and the name of the class is not among those that are taken then. So a number can
bring it back: exactly in the classes whose members would get other names if it were taken.
-/
namespace Exemplar

theorem Declaration.CSharp.memberName_ne_typeName (typeName : String) (p : Property) :
    memberName typeName p ≠ typeName := by
  rw [memberName]
  by_cases same : Naming.csharp.memberName p.name = typeName
  · rw [if_pos same, same]
    intro longer
    have length := congrArg String.length longer
    have value : "Value".length = 5 := by decide
    rw [String.length_append] at length
    omega
  · rw [if_neg same]
    exact same

namespace Target

theorem typeName_notMem_spellings (space : Option String) (c : Class) :
    (csharp space).typeName c.name ∉ (csharp space).spellings c := by
  intro member
  obtain ⟨p, _, same⟩ := List.mem_map.mp member
  exact Declaration.CSharp.memberName_ne_typeName _ p same

/-- Before they are numbered, no member has the name of its class. A number brings it back exactly in
the classes whose members would have other names if the name of the class were taken from the start.
It is then the number of a member all of whose lower numbers are members too; and it always comes back
if two members are spelled alike and the second number of their spelling is the name of the class. -/
theorem memberNames_avoid_typeName (space : Option String) (c : Class) :
    let typeName := (csharp space).typeName c.name
    let spellings := (csharp space).spellings c
    let members := (csharp space).memberNames c
    typeName ∉ spellings ∧
    (typeName ∉ members ↔ members = Naming.distinctFrom [typeName] spellings) ∧
    (typeName ∈ members →
      ∃ spelling ∈ spellings, ∃ n, 2 ≤ n ∧ typeName = Naming.numbered spelling n ∧
        spelling ∈ members ∧ ∀ k, 2 ≤ k → k < n → Naming.numbered spelling k ∈ members) ∧
    ∀ spelling, 2 ≤ spellings.count spelling → typeName = Naming.numbered spelling 2 →
      typeName ∈ members := by
  intro typeName spellings members
  have spelled : typeName ∉ spellings := typeName_notMem_spellings space c
  have names : members = Naming.distinctFrom [] spellings := memberNames_eq (csharp space) c
  rw [names]
  refine ⟨spelled, ?_, ?_, ?_⟩
  · constructor
    · intro absent
      exact (Naming.distinctFrom_reserve (by simp) absent).symm
    · intro reserved member
      rw [reserved] at member
      exact Naming.notMem_of_mem_distinctFrom member List.mem_cons_self
  · intro member
    exact (Naming.numbered_of_mem_distinctFrom member).resolve_left spelled
  · intro spelling twice number
    rw [number]
    exact Naming.numbered_two_mem_distinct twice

/-- Two keys that spell one member, in a class whose name is its second number. -/
theorem memberNames_avoid_typeName_twice :
    let value : Json.Value := .object
      [("item2", .object [("item", .number (.integer 1)), ("Item", .number (.integer 2))])]
    let c := (Session.observe Naming.singular ∅ "RootClass" value).model.classOf "Item2"
    2 ≤ ((csharp none).spellings c).count "Item" ∧
    (csharp none).typeName c.name ∈ (csharp none).memberNames c ∧
    ∃ spelling ∈ (csharp none).spellings c, ∃ n, 2 ≤ n ∧
      (csharp none).typeName c.name = Naming.numbered spelling n := by
  intro value c
  have twice : 2 ≤ ((csharp none).spellings c).count "Item" := by decide +kernel
  obtain ⟨_, _, number, second⟩ := memberNames_avoid_typeName none c
  have member := second "Item" twice (by decide +kernel)
  obtain ⟨spelling, spelled, n, two, same, _⟩ := number member
  exact ⟨twice, member, spelling, spelled, n, two, same⟩

/-- The second of two members that are spelled alike has the name of the class. -/
theorem memberNames_meet_typeName :
    let value : Json.Value := .object
      [("item2", .object [("item", .number (.integer 1)), ("Item", .number (.integer 2))])]
    let m := (Session.run Naming.singular ∅ [.observe "RootClass" value]).model
    m.names = ["RootClass", "Item2"] ∧ (csharp none).typeName "Item2" = "Item2" ∧
    (csharp none).memberNames (m.classOf "Item2") = ["Item", "Item2"] := by
  decide +kernel

end Target

end Exemplar
