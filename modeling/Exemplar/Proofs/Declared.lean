import Exemplar.Declaration.File
import Exemplar.Proofs.ClassGraph
import Exemplar.Proofs.DistinctNames

/-!
# Declared types

A block opens with the type identifier of its class and has a member for each property. Where the
type of a property is a class, the member uses the type identifier of that class, and in the
declarations of an inferred model some block opens with this identifier.
-/
namespace Exemplar

namespace Target

/-- The type identifier of a class. -/
def typeName : Target → String → String
  | rust => Naming.rust.typeName
  | csharp _ => Naming.csharp.typeName

/-- The lines of a declaration. -/
def lines (target : Target) (m : Model) (c : Class) : List String :=
  match target with
  | rust => Declaration.Rust.lines m c
  | csharp _ => Declaration.CSharp.lines c

/-- The line that opens the declaration of a type. -/
def openingLine : Target → String → String
  | rust, typeName => "pub struct " ++ typeName ++ " \x7b"
  | csharp _, typeName => "public class " ++ typeName

/-- The ways in which a member uses a type. -/
def uses : Target → String → List String
  | rust, typeName => [typeName, "Vec<" ++ typeName ++ ">", "Option<Box<" ++ typeName ++ ">>"]
  | csharp _, typeName => [typeName, "List<" ++ typeName ++ ">"]

/-- The line of a member with the given type. -/
def memberLine : Target → Property → String → String → String
  | rust, _, typeText, member => "    pub " ++ member ++ ": " ++ typeText ++ ","
  | csharp _, p, typeText, member =>
    "    public " ++ typeText ++ " " ++ member ++ " \x7b get; set; \x7d" ++
      Declaration.CSharp.startValue p

/-- Every member whose type is a class uses a type identifier that some block declares. -/
def DeclaresUsed (target : Target) (m : Model) : Prop :=
  ∀ c ∈ m.classes.values, (c.name, unlines (target.lines m c)) ∈ target.blocks m ∧
    ∀ p ∈ c.properties.values, ∀ other, p.dataType = .named other →
      (∃ use ∈ target.uses (target.typeName other), ∃ member,
        target.memberLine p use member ∈ target.lines m c) ∧
      ∃ block, (other, unlines block) ∈ target.blocks m ∧
        target.openingLine (target.typeName other) ∈ block

theorem mem_blocks (target : Target) (m : Model) {c : Class} (h : c ∈ m.classes.values) :
    (c.name, unlines (target.lines m c)) ∈ target.blocks m := by
  have block : target.block m c = unlines (target.lines m c) := by cases target <;> rfl
  rw [blocks, List.mem_map]
  exact ⟨c, h, by rw [block]⟩

theorem openingLine_mem_lines (target : Target) (m : Model) (c : Class) :
    target.openingLine (target.typeName c.name) ∈ target.lines m c := by
  cases target with
  | rust =>
    apply List.mem_append_left
    apply List.mem_append_left
    exact .tail _ (.tail _ (.head _))
  | csharp space =>
    apply List.mem_append_left
    apply List.mem_append_left
    exact .head _

end Target

namespace Naming

theorem exists_mem_zip_distinct {α : Type} (f : α → String) {as : List α} {a : α} (h : a ∈ as) :
    ∃ name, (a, name) ∈ as.zip (distinct (as.map f)) := by
  obtain ⟨i, hi, rfl⟩ := List.mem_iff_getElem.mp h
  have length : (distinct (as.map f)).length = as.length := by
    simp [distinct, length_distinctFrom]
  have hz : i < (as.zip (distinct (as.map f))).length := by
    rw [List.length_zip, length]
    omega
  have member := List.getElem_mem hz
  rw [List.getElem_zip] at member
  exact ⟨_, member⟩

end Naming

section Intercalate
variable {α : Type} {separator : List α} {parts : List (List α)} {x : α}

theorem mem_intercalate {part : List α} (hp : part ∈ parts) (hx : x ∈ part) :
    x ∈ separator.intercalate parts := by
  induction parts with
  | nil => cases hp
  | cons first rest ih =>
    cases rest with
    | nil =>
      cases List.mem_singleton.mp hp
      simpa [List.intercalate] using hx
    | cons second rest =>
      rw [List.intercalate_cons_cons]
      rcases List.mem_cons.mp hp with rfl | hp
      · simp [hx]
      · exact List.mem_append_right _ (ih hp)

theorem mem_of_mem_intercalate (h : x ∈ separator.intercalate parts) :
    x ∈ separator ∨ ∃ part ∈ parts, x ∈ part := by
  induction parts with
  | nil => cases h
  | cons first rest ih =>
    cases rest with
    | nil => exact .inr ⟨first, List.mem_cons_self, by simpa [List.intercalate] using h⟩
    | cons second rest =>
      rw [List.intercalate_cons_cons, List.mem_append, List.mem_append] at h
      rcases h with (inFirst | between) | later
      · exact .inr ⟨first, List.mem_cons_self, inFirst⟩
      · exact .inl between
      · rcases ih later with between | ⟨part, hp, hx⟩
        · exact .inl between
        · exact .inr ⟨part, List.mem_cons_of_mem first hp, hx⟩

end Intercalate

theorem Declaration.Rust.fieldType_mem_uses (m : Model) (owner : String) (p : Property) :
    fieldType m owner p ∈ Target.rust.uses (baseType p.dataType) := by
  simp only [fieldType, Target.uses]
  split
  · simp
  · split
    · split <;> simp
    · simp

theorem Declaration.CSharp.memberType_mem_uses (space : Option String) (p : Property) :
    memberType p ∈ (Target.csharp space).uses (baseType p.dataType) := by
  rw [memberType]
  split <;> simp [Target.uses]

namespace Target

theorem memberLine_mem_lines (target : Target) (m : Model) {c : Class} {p : Property}
    {other : String} (hp : p ∈ c.properties.values) (ht : p.dataType = .named other) :
    ∃ use ∈ target.uses (target.typeName other), ∃ member,
      target.memberLine p use member ∈ target.lines m c := by
  cases target with
  | rust =>
    obtain ⟨field, hz⟩ := Naming.exists_mem_zip_distinct
      (fun p : Property => Naming.rust.memberName p.name) hp
    refine ⟨Declaration.Rust.fieldType m c.name p, ?_, field, ?_⟩
    · have used := Declaration.Rust.fieldType_mem_uses m c.name p
      rwa [ht] at used
    · simp only [lines, Declaration.Rust.lines, List.mem_append, List.mem_flatMap]
      exact .inl (.inr ⟨(p, field), hz, .tail _ (.head _)⟩)
  | csharp space =>
    obtain ⟨member, hz⟩ := Naming.exists_mem_zip_distinct
      (Declaration.CSharp.memberName (Naming.csharp.typeName c.name)) hp
    refine ⟨Declaration.CSharp.memberType p, ?_, member, ?_⟩
    · have used := Declaration.CSharp.memberType_mem_uses space p
      rwa [ht] at used
    · simp only [lines, Declaration.CSharp.lines, List.mem_append]
      exact .inl (.inr (mem_intercalate (List.mem_map.mpr ⟨(p, member), hz, rfl⟩)
        (.tail _ (.head _))))

theorem declaresUsed_of_closed (target : Target) {m : Model} (closed : m.Closed)
    (named : m.WellNamed) : target.DeclaresUsed m := by
  intro c hc
  refine ⟨target.mem_blocks m hc, ?_⟩
  intro p hp other ht
  refine ⟨target.memberLine_mem_lines m hp ht, ?_⟩
  obtain ⟨name, hname⟩ := (Dict.mem_values_iff _ _).mp hc
  obtain ⟨key, hkey⟩ := (Dict.mem_values_iff _ _).mp hp
  have refers : m.Refers name other := by
    refine ⟨key, p, ?_, ht⟩
    rw [Model.property?_eq, Model.classOf_eq m hname]
    exact hkey
  have registered := (m.mem_names_iff other).mp (closed name other refers)
  obtain ⟨d, hd⟩ := Option.ne_none_iff_exists'.mp registered
  have same := named other d hd
  subst same
  exact ⟨target.lines m d, target.mem_blocks m ((Dict.mem_values_iff _ _).mpr ⟨d.name, hd⟩),
    target.openingLine_mem_lines m d⟩

end Target

namespace Model

theorem Closed.solve {m : Model} (closed : m.Closed) : m.solve.Closed := by
  rintro className other ⟨key, p, hp, ht⟩
  rw [property?_solve, Option.map_eq_some_iff] at hp
  obtain ⟨q, hq, rfl⟩ := hp
  rw [names_solve]
  exact closed className other ⟨key, q, hq, Property.dataType_of_solved ht⟩

theorem WellNamed.solve {m : Model} (named : m.WellNamed) : m.solve.WellNamed := by
  intro name c hc
  rw [get?_solve, Option.map_eq_some_iff] at hc
  obtain ⟨d, hd, rfl⟩ := hc
  exact named name d hd

end Model

/-- After any steps, every class that a property refers to is registered, and every registered class
is reached from the class of a root under which an object was observed since the last reset. Hence
the declarations, with or without placeholders, declare every type identifier that they use for a
class. -/
theorem references_resolve (singular : String → String) (steps : List Step) :
    let m := (Session.run singular ∅ steps).model
    m.Closed ∧
    (∀ n ∈ m.names, ∃ d ∈ documentsOf steps, d.HoldsObject ∧ m.Reaches (classNameFor d.root) n) ∧
    ∀ target : Target, target.DeclaresUsed m ∧ target.DeclaresUsed m.solve := by
  intro m
  have observed : m = (Session.observeAll singular ∅ (documentsOf steps)).model := by
    rw [← Session.run_eq_observeAll]
  have closed : m.Closed := observed ▸ closed_observeAll singular (documentsOf steps)
  have named : m.WellNamed := observed ▸ wellNamed_observeAll singular (documentsOf steps)
  refine ⟨closed, ?_, ?_⟩
  · intro n hn
    rw [observed] at hn ⊢
    exact exists_document_of_mem_names singular (documentsOf steps) hn
  · intro target
    exact ⟨target.declaresUsed_of_closed closed named,
      target.declaresUsed_of_closed closed.solve named.solve⟩

end Exemplar
