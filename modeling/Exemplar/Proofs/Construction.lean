import Exemplar.Proofs.FiniteSize

/-!
# New objects

A new object starts with a new object for each member that is a class and no array. Unlike the fields
of a structure these members are created however the classes refer to each other. The creation of an
object therefore ends exactly if no class that it creates objects of is on a cycle, and these are the
classes of whose fields none is boxed as a structure.
-/
namespace Exemplar

/-- A change to a model that leaves the classes their names. -/
inductive Edit where
  /-- Changes the properties of a class, which is registered first if need be. -/
  | change (className : String) (f : Dict Property → Dict Property)
  /-- Makes every placeholder a string. -/
  | solve

namespace Model

def edit (m : Model) : Edit → Model
  | .change className f => m.update className fun c => { c with properties := f c.properties }
  | .solve => m.solve

def editAll (m : Model) (edits : List Edit) : Model :=
  edits.foldl edit m

theorem WellNamed.name_classOf {m : Model} (named : m.WellNamed) (name : String) :
    (m.classOf name).name = name := by
  cases h : m.get? name with
  | none => simp [classOf, h, Class.new]
  | some c => simpa [classOf, h] using named name c h

theorem WellNamed.edit {m : Model} (named : m.WellNamed) (e : Edit) : (m.edit e).WellNamed := by
  cases e with
  | change className f =>
    intro name c registered
    rw [Model.edit, get?_update] at registered
    by_cases same : name = className
    · rw [if_pos same, Option.some.injEq] at registered
      subst registered same
      exact named.name_classOf name
    · rw [if_neg same] at registered
      exact named name c registered
  | solve => exact named.solve

/-- Whatever is inferred and then edited, classes are registered under their names. -/
theorem wellNamed_editAll_run (singular : String → String) (steps : List Step) (edits : List Edit) :
    ((Session.run singular ∅ steps).model.editAll edits).WellNamed := by
  have inferred : (Session.run singular ∅ steps).model.WellNamed := by
    rw [Session.run_eq_observeAll]
    exact wellNamed_observeAll singular (documentsOf steps)
  exact List.foldlRecOn edits edit inferred fun _ named e _ => named.edit e

end Model

namespace Declaration.CSharp
open Relation

/-- A new object of a class starts with a new object of another. -/
def StartsNew (m : Model) (owner other : String) : Prop :=
  ∃ c, m.get? owner = some c ∧
    ∃ p ∈ c.properties.values, p.isArray = false ∧ p.dataType = .named other ∧
      startValue p = " = new();"

/-- The creation of an object ends if the creation of those that it starts with does. -/
def CreationEnds (m : Model) : String → Prop :=
  Acc fun part owner => StartsNew m owner part

variable (m : Model)

theorem startsNew_iff (owner other : String) : StartsNew m owner other ↔ m.HasPart owner other := by
  refine exists_congr fun c => and_congr_right fun _ => exists_congr fun p => and_congr_right fun _ => ?_
  refine and_congr_right fun single => and_iff_left_of_imp fun type => ?_
  simp [startValue, single, type]

theorem creationEnds_iff_acyclic (name : String) :
    CreationEnds m name ↔
      ∀ other, ReflTransGen (StartsNew m) name other → ¬ TransGen (StartsNew m) other other :=
  acc_iff_acyclic m.names (fun owner other step => ((startsNew_iff m owner other).mp step).mem_names)
    name

section WellNamed
variable {m} (named : m.WellNamed)
include named

/-- The object that a boxed field stands for would be created by itself. -/
theorem transGen_of_not_hasInline {owner other : String} (step : StartsNew m owner other)
    (boxed : ¬ Rust.HasInline m owner other) : TransGen (StartsNew m) owner owner := by
  have part : m.HasPart owner other := (startsNew_iff m owner other).mp step
  have back : m.Holds other owner := by
    by_contra away
    exact boxed ((Rust.hasInline_iff named owner other).mpr ⟨part, away⟩)
  have path : ReflTransGen (StartsNew m) other owner :=
    ReflTransGen.mono (fun a b => (startsNew_iff m a b).mpr) _ _ back
  exact TransGen.head' step path

theorem creationEnds_iff_hasInline (name : String) :
    CreationEnds m name ↔
      ∀ owner, ReflTransGen (StartsNew m) name owner →
        ∀ other, StartsNew m owner other → Rust.HasInline m owner other := by
  rw [creationEnds_iff_acyclic]
  constructor
  · intro acyclic owner path other step
    by_contra boxed
    exact acyclic owner path (transGen_of_not_hasInline named step boxed)
  · intro inline owner path cycle
    have steps : ∀ last, TransGen (StartsNew m) owner last →
        TransGen (Rust.HasInline m) owner last := by
      intro last chain
      induction chain with
      | single step => exact .single (inline owner path _ step)
      | tail chain step ih =>
        have reached := path.trans chain.to_reflTransGen
        exact .tail ih (inline _ reached _ step)
    exact Rust.not_transGen_hasInline named owner (steps owner cycle)

end WellNamed

/-- Every part is created anew. The creation of an object ends exactly if none of the classes that it
creates objects of is on a cycle, and these are the classes none of whose fields is boxed in the
structures of the same model. -/
theorem creationEnds_iff (singular : String → String) (steps : List Step) (edits : List Edit) :
    let m := (Session.run singular ∅ steps).model.editAll edits
    (∀ owner other, StartsNew m owner other ↔ m.HasPart owner other) ∧
    (∀ name, CreationEnds m name ↔
      ∀ other, ReflTransGen (StartsNew m) name other → ¬ TransGen (StartsNew m) other other) ∧
    ∀ name, CreationEnds m name ↔
      ∀ owner, ReflTransGen (StartsNew m) name owner →
        ∀ other, StartsNew m owner other → Rust.HasInline m owner other := by
  intro m
  have named : m.WellNamed := Model.wellNamed_editAll_run singular steps edits
  exact ⟨startsNew_iff m, creationEnds_iff_acyclic m, creationEnds_iff_hasInline named⟩

/-- A class under a key of its own: an object of it creates another of the same class, and so on. -/
theorem creation_endless :
    let value : Json.Value := .object
      [("node", .object
        [("value", .number (.integer 1)), ("node", .object [("value", .number (.integer 2))])])]
    let m := (Session.run Naming.singular ∅ [.observe "RootClass" value]).model
    StartsNew m "RootClass" "Node" ∧ StartsNew m "Node" "Node" ∧ ¬ CreationEnds m "Node" ∧
      ¬ CreationEnds m "RootClass" := by
  intro value m
  let node : Property := ⟨"node", "Node", .named "Node", false⟩
  have root : StartsNew m "RootClass" "Node" :=
    ⟨m.classOf "RootClass", by decide +kernel, node, by decide +kernel, rfl, rfl, rfl⟩
  have again : StartsNew m "Node" "Node" :=
    ⟨m.classOf "Node", by decide +kernel, node, by decide +kernel, rfl, rfl, rfl⟩
  have endless : ¬ CreationEnds m "Node" := fun ends => not_transGen_of_acc ends (.single again)
  exact ⟨root, again, endless, fun ends => endless (ends.inv root)⟩

end Declaration.CSharp

end Exemplar
