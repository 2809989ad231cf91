import Exemplar.Proofs.Coverage
import Exemplar.Proofs.FirstSample
import Exemplar.Proofs.Warnings

/-!
# Documents that conform to their model

An object conforms to a class if the properties of the class have the types that its members ask for,
all the way down. A session that warns of nothing has a model to which all of its documents conform:
the model is as of the end, but types stay, and what the walk leaves out it warns of.
-/
namespace Exemplar
open Json (Value)

/-- The value is a string, a number or a boolean, and has this type. -/
inductive IsOfType : Value → DataType → Prop where
  | string {text} : IsOfType (.string text) .string
  | number {n} : IsOfType (.number n) .int
  | bool {b} : IsOfType (.bool b) .bool

theorem IsOfType.ne_unknown {v : Value} {dataType : DataType} (h : IsOfType v dataType) :
    dataType ≠ .unknown := by
  cases h <;> simp

section Conforms
variable (singular : String → String) (m : Model)

mutual
/-- The members of an object fit the properties of a class. -/
inductive Conforms : String → List (String × Value) → Prop where
  | members {className members} (fits : ∀ key v, (key, v) ∈ members → Fits className key v) :
      Conforms className members

/-- A value fits the property of a class under a key. -/
inductive Fits : String → String → Value → Prop where
  | null {className key} (present : m.property? className key ≠ none) : Fits className key .null
  | scalar {className key v dataType} (typed : IsOfType v dataType)
      (has : m.Has className key ⟨dataType, false⟩) : Fits className key v
  | object {className key members} (has : m.Has className key ⟨.named (classNameFor key), false⟩)
      (inside : Conforms (classNameFor key) members) : Fits className key (.object members)
  | nulls {className key items} (all : ∀ v ∈ items, v.isNull = true) :
      Fits className key (.array items)
  | scalars {className key items dataType} (has : m.Has className key ⟨dataType, true⟩)
      (all : ∀ v ∈ items, v.isNull = false → IsOfType v dataType) : Fits className key (.array items)
  | objects {className key items}
      (has : m.Has className key ⟨.named (classNameFor (singular key)), true⟩)
      (all : ∀ v ∈ items, v.isNull = false → v.isObject = true)
      (inside : ∀ members, .object members ∈ items →
        Conforms (classNameFor (singular key)) members) : Fits className key (.array items)
end

end Conforms

/-- The objects of a document that are folded into the class of its root. -/
def Document.objects (d : Document) : List Value :=
  match d.value with
  | .array items => items.filter (·.isObject)
  | v => [v].filter (·.isObject)

/-- An event without a warning, whose sample is the type in the model. -/
def Event.Agrees (m : Model) : Event → Prop
  | .enter _ => True
  | .sample className key offered =>
    m.property? className key ≠ none ∧
      (offered.dataType ≠ .unknown → m.Has className key offered)
  | .report _ => False

theorem ItemShape.isOfType_of_scalar {v : Value} {dataType : DataType} (known : v.isNull = false)
    (h : ofItem v = .scalar dataType) : IsOfType v dataType := by
  cases v with
  | null => cases known
  | bool b => cases h; exact .bool
  | number n => cases h; exact .number
  | string text => cases h; exact .string
  | array items => cases h
  | object members => cases h

namespace ArrayShape

theorem mixed_eq_false_of_agrees {m : Model} {shape : ArrayShape} {className key : String}
    (agrees : ∀ e ∈ shape.reports className key, e.Agrees m) : shape.mixed = false := by
  by_contra mixed
  rw [Bool.not_eq_false] at mixed
  exact agrees (.report (.mixedArray className key)) (by simp [reports, mixed])

end ArrayShape

section Visit
variable (singular : String → String) (m : Model)

theorem fits_of_agrees :
    Value.Hereditary
      (fun v =>
        (∀ className key, (∀ e ∈ visitValue singular m className key v, e.Agrees m) →
          Fits singular m className key v) ∧
        ∀ className, (∀ e ∈ visitItem singular m className v, e.Agrees m) →
          ∀ members, v = .object members → Conforms singular m className members)
      (fun members => ∀ className,
        (∀ e ∈ visitMembers singular m className members, e.Agrees m) →
          Conforms singular m className members)
      (fun items => ∀ className, (∀ e ∈ visitItems singular m className items, e.Agrees m) →
        ∀ members, .object members ∈ items → Conforms singular m className members) where
  scalar v hv := by
    constructor
    · intro className key agrees
      cases v with
      | array _ => cases hv
      | object _ => cases hv
      | null => exact .null (agrees _ List.mem_cons_self).1
      | bool b =>
        have typed : IsOfType (.bool b) .bool := .bool
        exact .scalar typed ((agrees _ List.mem_cons_self).2 typed.ne_unknown)
      | number n =>
        have typed : IsOfType (.number n) .int := .number
        exact .scalar typed ((agrees _ List.mem_cons_self).2 typed.ne_unknown)
      | string text =>
        have typed : IsOfType (.string text) .string := .string
        exact .scalar typed ((agrees _ List.mem_cons_self).2 typed.ne_unknown)
    · rintro className _ members rfl
      cases hv
  object members ih := by
    constructor
    · intro className key agrees
      rw [visitValue, List.forall_mem_cons] at agrees
      obtain ⟨⟨_, sample⟩, walked⟩ := agrees
      have has := sample (by simp)
      rw [if_pos has, List.forall_mem_cons] at walked
      exact .object has (ih _ walked.2)
    · rintro className agrees _ ⟨⟩
      rw [visitItem, List.forall_mem_cons] at agrees
      exact ih className agrees.2
  array items ih := by
    refine ⟨?_, by simp⟩
    intro className key agrees
    simp only [visitValue, List.forall_mem_append] at agrees
    obtain ⟨reports, walked⟩ := agrees
    have uniform : (ArrayShape.inspect items).mixed = false :=
      ArrayShape.mixed_eq_false_of_agrees reports
    have shape (v) (hv : v ∈ items) (known : v.isNull = false) :=
      ArrayShape.ofItem_eq_kind uniform hv known
    cases hk : (ArrayShape.inspect items).kind with
    | empty => exact .nulls (ArrayShape.kind_eq_empty_iff.mp hk)
    | scalar dataType =>
      rw [hk] at walked shape
      obtain ⟨v, _, known, hv⟩ := ArrayShape.exists_item_of_kind_eq_scalar hk
      have typed := ItemShape.isOfType_of_scalar known hv
      refine .scalars ((walked _ List.mem_cons_self).2 typed.ne_unknown) ?_
      intro v hv known
      exact ItemShape.isOfType_of_scalar known (shape v hv known)
    | objects =>
      rw [hk] at walked shape
      obtain ⟨⟨_, sample⟩, inside⟩ := List.forall_mem_cons.mp walked
      have has := sample (by simp)
      rw [if_pos has] at inside
      refine .objects has ?_ (ih _ inside)
      intro v hv known
      obtain ⟨members, rfl⟩ := ItemShape.ofItem_eq_objects_iff.mp (shape v hv known)
      rfl
    | nested =>
      rw [hk] at walked
      exact (walked _ List.mem_cons_self).elim
  noMembers className _ := .members (by simp)
  member key v rest hv hrest := by
    intro className agrees
    rw [visitMembers, List.forall_mem_append] at agrees
    obtain ⟨fits⟩ := hrest className agrees.2
    constructor
    intro other w hw
    rcases List.mem_cons.mp hw with same | hw
    · cases same
      exact hv.1 className key agrees.1
    · exact fits other w hw
  noItems _ _ := by simp
  item v rest hv hrest := by
    intro className agrees members hm
    rw [visitItems, List.forall_mem_append] at agrees
    rcases List.mem_cons.mp hm with same | hm
    · exact hv.2 className agrees.1 members same.symm
    · exact hrest className agrees.2 members hm

theorem conforms_of_agrees (d : Document) (agrees : ∀ e ∈ visitDocument singular m d, e.Agrees m)
    {members : List (String × Value)} (h : .object members ∈ d.objects) :
    Conforms singular m (classNameFor d.root) members := by
  obtain ⟨root, v⟩ := d
  cases v with
  | array items =>
    exact (fits_of_agrees singular m).items items _ agrees members (List.mem_filter.mp h).1
  | object others =>
    have same := List.mem_singleton.mp (List.mem_filter.mp h).1
    exact ((fits_of_agrees singular m).value _).2 _ agrees members same.symm
  | _ => cases h

end Visit

/-- A session without warnings holds no event that its model disagrees with. -/
theorem Session.agrees_of_quiet (singular : String → String) (documents : List Document)
    (quiet : (Session.observeAll singular ∅ documents).warnings = []) :
    ∀ e ∈ visitAll singular (Session.observeAll singular ∅ documents).model documents,
      e.Agrees (Session.observeAll singular ∅ documents).model := by
  have replayed := observeAll_eq_replay singular ∅ documents (.refl _)
  have none := warnings_observeAll singular ∅ documents (.refl _)
  rw [quiet, eq_comm, List.append_eq_nil_iff, List.flatMap_eq_nil_iff] at none
  have later : (replay ∅ (visitAll singular (observeAll singular ∅ documents).model
      documents)).model.Grows (observeAll singular ∅ documents).model := by
    rw [← replayed]
    exact .refl _
  have accepts := accepts_of_noConflict ∅ later (by rw [← replayed, quiet]; exact nofun)
  intro e he
  cases e with
  | enter className => trivial
  | report w => cases none.2 _ he
  | sample className key x =>
    obtain ⟨_, p, hp, _⟩ := covers_replay ∅ later _ he
    exact ⟨by simp [hp], accepts className key x he⟩

/-- Nothing is left out in silence. If documents were observed without a single warning, each object
at the root of one of them, or among the items at its root, conforms to the class of its root. -/
theorem conforms_of_no_warnings (singular : String → String) (documents : List Document)
    (quiet : (Session.observeAll singular ∅ documents).warnings = []) :
    ∀ d ∈ documents, ∀ members, .object members ∈ d.objects →
      Conforms singular (Session.observeAll singular ∅ documents).model (classNameFor d.root)
        members := by
  intro d hd members hm
  apply conforms_of_agrees singular _ d ?_ hm
  intro e he
  exact Session.agrees_of_quiet singular documents quiet e (List.mem_flatMap.mpr ⟨d, hd, he⟩)

/-- Two documents of one root: the second gives the types that the first leaves open. -/
def orders : List Document :=
  [⟨"order", .object
      [("id", .number (.integer 1)), ("tags", .null),
        ("lines", .array
          [.null, .object [("sku", .null)],
            .object [("sku", .string "a"), ("parent", .object [("id", .number (.integer 2))])]])]⟩,
    ⟨"order", .array
      [.object [("tags", .array [.null, .string "b"]), ("notes", .array [])], .null,
        .object [("lines", .array [.object [("sku", .string "c"), ("parent", .null)]])]]⟩]

theorem conforms_orders :
    (Session.observeAll Naming.singular ∅ orders).warnings = [] ∧
    Conforms Naming.singular (Session.observeAll Naming.singular ∅ orders).model
      (classNameFor "order")
      [("lines", .array [.object [("sku", .string "c"), ("parent", .null)]])] := by
  have quiet : (Session.observeAll Naming.singular ∅ orders).warnings = [] := by decide +kernel
  have last : orders[1] ∈ orders := List.getElem_mem _
  exact ⟨quiet, conforms_of_no_warnings Naming.singular orders quiet _ last _ (.tail _ (.head _))⟩

end Exemplar
