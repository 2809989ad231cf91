import Exemplar.Proofs.ClassNames
import Exemplar.Proofs.Declared

/-!
# Well-formed models

In the model of a session everything stands under its own name, a property without a type is no array,
and the class that a property has as its type is that of its key or, for an array, of the singular of
its key. A property has no type exactly as long as its samples were nulls, and in the end it becomes a
string.
-/
namespace Exemplar

/-- A property as it stands under its key. -/
structure Property.WellFormed (singular : String → String) (key : String) (p : Property) : Prop where
  key_eq : p.key = key
  name_eq : p.name = Naming.pascalCase key
  single_of_unknown : p.dataType = .unknown → p.isArray = false
  class_eq : ∀ other, p.dataType = .named other → p.isArray = false → other = classNameFor key
  itemClass_eq : ∀ other, p.dataType = .named other → p.isArray = true →
    other = classNameFor (singular key)

structure Model.WellFormed (singular : String → String) (m : Model) : Prop where
  classes : m.WellNamed
  properties : ∀ name c, m.get? name = some c →
    ∀ key p, c.property? key = some p → p.WellFormed singular key

theorem Property.WellFormed.solved {singular : String → String} {key : String} {p : Property}
    (form : p.WellFormed singular key) : p.solved.WellFormed singular key where
  key_eq := p.key_solved.trans form.key_eq
  name_eq := p.name_solved.trans form.name_eq
  single_of_unknown := fun unknown => absurd unknown p.dataType_solved_ne_unknown
  class_eq := fun other named single =>
    form.class_eq other (dataType_of_solved named) (p.isArray_solved ▸ single)
  itemClass_eq := fun other named array =>
    form.itemClass_eq other (dataType_of_solved named) (p.isArray_solved ▸ array)

namespace Model.WellFormed
variable {singular : String → String} {m : Model} (form : m.WellFormed singular)
include form

/-- Solving keeps a model well-formed: it changes neither keys nor names, and no property gets a class
or loses one. -/
theorem solve : m.solve.WellFormed singular where
  classes := form.classes.solve
  properties := by
    intro name c registered key p held
    rw [get?_solve, Option.map_eq_some_iff] at registered
    obtain ⟨d, registered, rfl⟩ := registered
    rw [Class.property?_solved, Option.map_eq_some_iff] at held
    obtain ⟨q, held, rfl⟩ := held
    exact (form.properties name d registered key q held).solved

theorem of_mem_entries {c : Class} (hc : c ∈ m.classes.values) {key : String} {p : Property}
    (h : (key, p) ∈ c.properties.entries) : p.WellFormed singular key := by
  obtain ⟨name, registered⟩ := (Dict.mem_values_iff m.classes c).mp hc
  have held : c.property? key = some p := (Entries.get?_eq_some_iff c.properties.nodup).mpr h
  exact form.properties name c registered key p held

theorem map_key_values {c : Class} (hc : c ∈ m.classes.values) :
    c.properties.values.map (·.key) = c.properties.keys := by
  rw [Dict.values, Dict.keys, Entries.keys, List.map_map]
  apply List.map_congr_left
  rintro ⟨key, p⟩ member
  exact (form.of_mem_entries hc member).key_eq

theorem name_eq {c : Class} (hc : c ∈ m.classes.values) {p : Property}
    (hp : p ∈ c.properties.values) : p.name = Naming.pascalCase p.key := by
  obtain ⟨⟨key, _⟩, member, rfl⟩ := List.mem_map.mp hp
  have own := form.of_mem_entries hc member
  rw [own.name_eq, own.key_eq]

end Model.WellFormed

section FirstSample
variable {samples : List Sample} {x : Sample}

theorem isArray_of_firstSample (h : firstSample samples = some x) (unknown : x.dataType = .unknown) :
    x.isArray = false := by
  cases samples with
  | nil => cases h
  | cons first rest =>
    simp only [firstSample, Option.some.injEq] at h
    cases found : (first :: rest).find? (·.dataType ≠ .unknown) with
    | none =>
      rw [found] at h
      rw [← h]
      rfl
    | some kept =>
      have known : kept.dataType ≠ .unknown := by simpa using List.find?_some found
      rw [found, Option.getD_some] at h
      exact absurd (h ▸ unknown) known

theorem firstSample_of_nulls (sampled : samples ≠ [])
    (nulls : ∀ x ∈ samples, x.dataType = .unknown) : firstSample samples = some ⟨.unknown, false⟩ := by
  have untyped : samples.find? (·.dataType ≠ .unknown) = none :=
    List.find?_eq_none.mpr fun x hx => by simp [nulls x hx]
  cases samples with
  | nil => exact absurd rfl sampled
  | cons first rest => simp only [firstSample, untyped, Option.getD_none]

end FirstSample

section Session
variable (singular : String → String) (documents : List Document)

theorem wellFormed_property (className : String) {key : String} {p : Property}
    (h : (Session.observeAll singular ∅ documents).model.property? className key = some p) :
    p.WellFormed singular key := by
  have named := namedByKeys_observeAll singular documents className key p h
  rw [property?_observeAll, Option.map_eq_some_iff] at h
  obtain ⟨kept, first, rfl⟩ := h
  constructor
  · rfl
  · rfl
  · exact isArray_of_firstSample first
  · intro other type single
    rw [named other type, classUnder, single]
    rfl
  · intro other type array
    rw [named other type, classUnder, array]
    rfl

theorem wellFormed_observeAll :
    (Session.observeAll singular ∅ documents).model.WellFormed singular where
  classes := wellNamed_observeAll singular documents
  properties := by
    intro name c registered key p member
    apply wellFormed_property singular documents name
    rw [Model.property?_eq, Model.classOf_eq _ registered]
    exact member

end Session

theorem wellFormed_run_or_solve (singular : String → String) (steps : List Step) :
    let s := Session.run singular ∅ steps
    ∀ m ∈ [s.model, s.solve], m.WellFormed singular := by
  intro s
  have inferred : s.model.WellFormed singular := by
    have observed : s = Session.observeAll singular ∅ (documentsOf steps) :=
      Session.run_eq_observeAll singular steps
    rw [observed]
    exact wellFormed_observeAll singular (documentsOf steps)
  rw [List.forall_mem_cons, List.forall_mem_singleton]
  exact ⟨inferred, inferred.solve⟩

/-- The model of any history is well-formed. Once it is solved every property has a type, and one all
of whose samples were nulls is a string and no array. -/
theorem run_wellFormed (singular : String → String) (steps : List Step) :
    let s := Session.run singular ∅ steps
    let log := sessionLog singular (documentsOf steps)
    s.model.WellFormed singular ∧
    (∀ className key p, s.solve.property? className key = some p → p.dataType ≠ .unknown) ∧
    ∀ className key, samplesAt className key log ≠ [] →
      (∀ x ∈ samplesAt className key log, x.dataType = .unknown) →
        s.solve.property? className key = some ⟨key, Naming.pascalCase key, .string, false⟩ := by
  intro s log
  have observed : s = Session.observeAll singular ∅ (documentsOf steps) :=
    Session.run_eq_observeAll singular steps
  refine ⟨?_, ?_, ?_⟩
  · rw [observed]
    exact wellFormed_observeAll singular (documentsOf steps)
  · intro className key p hp
    rw [Session.solve, Model.property?_solve, Option.map_eq_some_iff] at hp
    obtain ⟨q, _, rfl⟩ := hp
    exact q.dataType_solved_ne_unknown
  · intro className key sampled nulls
    have first : firstSample (samplesAt className key log) = some ⟨.unknown, false⟩ :=
      firstSample_of_nulls sampled nulls
    rw [Session.solve, Model.property?_solve, observed, property?_observeAll, first]
    rfl

/-- A null, an array of objects and an object, after documents that were forgotten. -/
theorem run_wellFormed_rows :
    let value : Json.Value := .object
      [("note", .null), ("rows", .array [.object [("note", .null)]]), ("meta_data", .object [])]
    let steps : List Step :=
      [.parse "doc" "[\x7b\"note\": 1\x7d]", .reset, .observe "doc" value, .parse "doc" "\x7b"]
    let s := Session.run Naming.singular ∅ steps
    s.model.WellFormed Naming.singular ∧
    s.model.property? "Doc" "rows" = some ⟨"rows", "Rows", .named "Row", true⟩ ∧
    samplesAt "Doc" "note" (sessionLog Naming.singular (documentsOf steps))
      = [⟨.unknown, false⟩] ∧
    s.solve.property? "Doc" "note" = some ⟨"note", "Note", .string, false⟩ := by
  intro value steps s
  obtain ⟨wellFormed, _, nulls⟩ := run_wellFormed Naming.singular steps
  have samples : samplesAt "Doc" "note" (sessionLog Naming.singular (documentsOf steps))
      = [⟨.unknown, false⟩] := by
    decide +kernel
  have name : Naming.pascalCase "note" = "Note" := by decide +kernel
  have solved := nulls "Doc" "note" (by rw [samples]; exact nofun) (by rw [samples]; simp)
  exact ⟨wellFormed, by decide +kernel, samples, name ▸ solved⟩

end Exemplar
