import Exemplar.Proofs.CycleSearch
import Exemplar.Proofs.Declared

/-!
# Declarations of unsolved models

The declarations write the same for a property without a type as for a string, so a model may be
solved before they are written or not. Whether a field is boxed is decided by a search over the
whole model, which is another model once it is solved; but neither a placeholder nor a string is a
part of a class, so the search takes the same paths.
-/
namespace Exemplar

/-- What is the same for a string and for a missing type is the same once a property is solved. -/
theorem Property.solved_congr {α : Type} {f : DataType → α} (same : f .string = f .unknown)
    (p : Property) : f p.solved.dataType = f p.dataType := by
  rw [dataType_solved]
  by_cases unknown : p.dataType = .unknown
  · rw [if_pos unknown, unknown, same]
  · rw [if_neg unknown]

theorem Property.className?_solved (p : Property) :
    p.solved.dataType.className? = p.dataType.className? :=
  solved_congr rfl p

namespace Class

@[simp] theorem name_solved (c : Class) : c.solved.name = c.name := rfl

theorem values_solved (c : Class) :
    c.solved.properties.values = c.properties.values.map Property.solved := by
  simp [solved, Dict.values, Dict.map]

theorem parts_solved (c : Class) : c.solved.parts = c.parts := by
  rw [parts, values_solved, List.filterMap_map, parts]
  congr 1
  funext p
  rw [Function.comp_apply, p.isArray_solved, p.className?_solved]

end Class

namespace Model

theorem values_solve (m : Model) : m.solve.classes.values = m.classes.values.map Class.solved := by
  simp [solve, Dict.values, Dict.map]

theorem hasPart_solve (m : Model) : m.solve.HasPart = m.HasPart := by
  funext owner part
  have parts : m.solve.partsOf owner = m.partsOf owner := by
    rw [partsOf, partsOf, get?_solve]
    cases m.get? owner with
    | none => rfl
    | some c => exact c.parts_solved
  rw [← mem_partsOf_iff, ← mem_partsOf_iff, parts]

theorem closesCycle_solve (m : Model) (start owner : String) :
    m.solve.closesCycle start owner = m.closesCycle start owner := by
  rw [Bool.eq_iff_iff, closesCycle_iff, closesCycle_iff, Holds, Holds, hasPart_solve]

end Model

namespace Declaration

theorem Rust.fieldType_solve (m : Model) (owner : String) (p : Property) :
    fieldType m.solve owner p.solved = fieldType m owner p := by
  have base : baseType p.solved.dataType = baseType p.dataType := p.solved_congr rfl
  simp only [fieldType, base, p.isArray_solved, p.className?_solved, m.closesCycle_solve]

theorem Rust.fieldLines_solve (m : Model) (owner : String) (p : Property) (field : String) :
    fieldLines m.solve owner p.solved field = fieldLines m owner p field := by
  rw [fieldLines, fieldLines, p.key_solved, fieldType_solve]

theorem Rust.fieldNames_solved (c : Class) : fieldNames c.solved = fieldNames c := by
  simp only [fieldNames, c.values_solved, List.map_map, Function.comp_def, Property.name_solved]

theorem Rust.lines_solve (m : Model) (c : Class) : lines m.solve c.solved = lines m c := by
  simp only [lines, fieldNames_solved, c.values_solved, c.name_solved, List.zip_map_left,
    List.flatMap_map, Prod.map, fieldLines_solve, id_eq]

theorem CSharp.memberType_solved (p : Property) : memberType p.solved = memberType p := by
  have base : baseType p.solved.dataType = baseType p.dataType := p.solved_congr rfl
  rw [memberType, memberType, base, p.isArray_solved]

theorem CSharp.startValue_solved (p : Property) : startValue p.solved = startValue p := by
  rw [startValue, startValue, p.isArray_solved, p.dataType_solved]
  by_cases unknown : p.dataType = .unknown
  · rw [if_pos unknown, unknown]
  · rw [if_neg unknown]

theorem CSharp.memberLines_solved (p : Property) (member : String) :
    memberLines p.solved member = memberLines p member := by
  rw [memberLines, memberLines, p.key_solved, memberType_solved, startValue_solved]

theorem CSharp.memberNames_solved (c : Class) : memberNames c.solved = memberNames c := by
  have own (typeName : String) (p : Property) : memberName typeName p.solved = memberName typeName p := by
    rw [memberName, memberName, p.name_solved]
  simp only [memberNames, c.values_solved, c.name_solved, List.map_map, Function.comp_def, own]

theorem CSharp.lines_solved (c : Class) : lines c.solved = lines c := by
  simp only [lines, bodyLines, memberNames_solved, c.values_solved, c.name_solved,
    List.zip_map_left, List.map_map, Function.comp_def, Prod.map, memberLines_solved, id_eq]

end Declaration

theorem Target.blocks_solve (target : Target) (m : Model) :
    target.blocks m.solve = target.blocks m := by
  have block (c : Class) : target.block m.solve c.solved = target.block m c := by
    cases target with
    | rust => exact congrArg unlines (Declaration.Rust.lines_solve m c)
    | csharp space => exact congrArg unlines (Declaration.CSharp.lines_solved c)
  rw [blocks, Model.values_solve, List.map_map]
  apply List.map_congr_left
  intro c _
  exact Prod.ext rfl (block c)

/-- Solving is invisible in the declarations: in either language those of the unsolved model are the
same texts under the same names in the same order. It leaves the classes and the keys of their
properties as they are, and of a property it changes the type only, to a string if there was none;
the property keeps the type of its field, boxed or not, and the value with which its member starts.
-/
theorem solve_invisible (s : Session) :
    (∀ target : Target, target.blocks s.model = target.blocks s.solve) ∧
    s.solve.names = s.model.names ∧
    (∀ name, (s.solve.classOf name).name = (s.model.classOf name).name ∧
      (s.solve.classOf name).properties.keys = (s.model.classOf name).properties.keys) ∧
    ∀ name key p, s.model.property? name key = some p →
      ∃ q, s.solve.property? name key = some q ∧
        q.key = p.key ∧ q.name = p.name ∧ q.isArray = p.isArray ∧
        q.dataType = (if p.dataType = .unknown then .string else p.dataType) ∧
        (∀ owner, Declaration.Rust.fieldType s.solve owner q
          = Declaration.Rust.fieldType s.model owner p) ∧
        Declaration.CSharp.memberType q = Declaration.CSharp.memberType p ∧
        Declaration.CSharp.startValue q = Declaration.CSharp.startValue p := by
  refine ⟨fun target => (target.blocks_solve s.model).symm, s.model.names_solve, ?_, ?_⟩
  · intro name
    rw [Session.solve, Model.classOf_solve]
    exact ⟨rfl, Dict.keys_map ..⟩
  · intro name key p hp
    refine ⟨p.solved, ?_, ?_⟩
    · rw [Session.solve, Model.property?_solve, hp, Option.map_some]
    · exact ⟨p.key_solved, p.name_solved, p.isArray_solved, p.dataType_solved,
        fun owner => Declaration.Rust.fieldType_solve s.model owner p,
        Declaration.CSharp.memberType_solved p, Declaration.CSharp.startValue_solved p⟩

/-- A class that holds itself, with a placeholder before the reference. -/
theorem solve_invisible_nodes :
    let value : Json.Value :=
      .object [("note", .null), ("node", .object [("rows", .array [.object [("n", .null)]])])]
    let s := Session.observe Naming.singular ∅ "node" value
    let note : Property := ⟨"note", "Note", .unknown, false⟩
    s.model ≠ s.solve ∧ Target.rust.blocks s.model = Target.rust.blocks s.solve ∧
    s.model.property? "Node" "note" = some note ∧
    s.solve.property? "Node" "note" = some { note with dataType := .string } ∧
    ∃ q, s.solve.property? "Node" "node" = some q ∧
      Declaration.Rust.fieldType s.solve "Node" q = "Option<Box<Node>>" := by
  intro value s note
  obtain ⟨texts, _, _, properties⟩ := solve_invisible s
  have placeholder : s.model.property? "Node" "note" = some note := by decide +kernel
  have reference : s.model.property? "Node" "node"
      = some ⟨"node", "Node", .named "Node", false⟩ := by
    decide +kernel
  obtain ⟨⟨_, _, _, _⟩, solved, rfl, rfl, rfl, rfl, _⟩ := properties "Node" "note" note placeholder
  obtain ⟨q, held, _, _, _, _, fields, _⟩ := properties "Node" "node" _ reference
  refine ⟨by decide +kernel, texts .rust, placeholder, solved, q, held, ?_⟩
  have boxed : s.model.closesCycle "Node" "Node" = true :=
    (s.model.closesCycle_iff "Node" "Node").mpr .refl
  have name : Naming.rust.typeName "Node" = "Node" := by decide +kernel
  rw [fields "Node"]
  simp only [Declaration.Rust.fieldType, Declaration.Rust.baseType, DataType.className?, boxed,
    name]
  decide

end Exemplar
