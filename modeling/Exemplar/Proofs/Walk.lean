import Exemplar.Proofs.Shape
import Exemplar.Proofs.Visit

/-!
# Walks without their values

What the events of a guided walk can look like inside one class, whatever the values are: scalars and
nulls are offered, arrays are reported under the class, and a sample that names a class is followed by
a walk inside that class exactly if the model has it. Facts about the events of a walk are inductions
over this relation; the values are gone through once, in `walk_visit`.
-/
namespace Exemplar
open Json (Value)

/-- The warning reports an array of a class. -/
def Warning.Reports (className : String) (w : Warning) : Prop :=
  ∃ key, w = .mixedArray className key ∨ w = .nestedArray className key

inductive Walk (m : Model) : String → List Event → Prop where
  | nil {className} : Walk m className []
  | append {className a b} : Walk m className a → Walk m className b → Walk m className (a ++ b)
  /-- A further object of the class. -/
  | enter {className} : Walk m className [.enter className]
  | report {className w} (own : w.Reports className) : Walk m className [.report w]
  | null {className key} : Walk m className [.sample className key ⟨.unknown, false⟩]
  | scalar {className key dataType isArray} (primitive : dataType.isPrimitive = true) :
      Walk m className [.sample className key ⟨dataType, isArray⟩]
  | refused {className key other isArray} (hasNot : ¬ m.Has className key ⟨.named other, isArray⟩) :
      Walk m className [.sample className key ⟨.named other, isArray⟩]
  | accepted {className key other isArray events} (has : m.Has className key ⟨.named other, isArray⟩)
      (inside : Walk m other events) :
      Walk m className (.sample className key ⟨.named other, isArray⟩ :: .enter other :: events)

/-- The events of objects that are folded into a class one after the other. -/
def WalkObjects (m : Model) (className : String) (events : List Event) : Prop :=
  events = [] ∨ ∃ rest, events = .enter className :: rest ∧ Walk m className rest

theorem WalkObjects.walk {m : Model} {className : String} {events : List Event}
    (h : WalkObjects m className events) : Walk m className events := by
  rcases h with rfl | ⟨rest, rfl, hrest⟩
  · exact .nil
  · exact Walk.enter.append hrest

theorem WalkObjects.append {m : Model} {className : String} {a b : List Event}
    (ha : WalkObjects m className a) (hb : WalkObjects m className b) :
    WalkObjects m className (a ++ b) := by
  rcases ha with rfl | ⟨rest, rfl, hrest⟩
  · exact hb
  · exact .inr ⟨rest ++ b, rfl, hrest.append hb.walk⟩

theorem Walk.offer {m : Model} {className key other : String} {isArray : Bool}
    {events : List Event} (objects : WalkObjects m other events) (some : events ≠ []) :
    Walk m className (.sample className key ⟨.named other, isArray⟩ ::
      if m.Has className key ⟨.named other, isArray⟩ then events else []) := by
  by_cases has : m.Has className key ⟨.named other, isArray⟩
  · obtain ⟨rest, rfl, hrest⟩ := objects.resolve_left some
    rw [if_pos has]
    exact .accepted has hrest
  · rw [if_neg has]
    exact .refused has

theorem walk_reports (m : Model) (shape : ArrayShape) (className key : String) :
    Walk m className (shape.reports className key) := by
  by_cases h : shape.mixed
  · rw [ArrayShape.reports, if_pos h]
    exact .report ⟨key, .inl rfl⟩
  · simpa [ArrayShape.reports, h] using Walk.nil

section Visit
variable (singular : String → String) (m : Model)

theorem visitItems_eq_nil_iff (className : String) (items : List Value) :
    visitItems singular m className items = [] ↔ ∀ v ∈ items, v.isObject = false := by
  induction items with
  | nil => simp [visitItems]
  | cons v rest ih => cases v <;> simp [visitItems, visitItem, ih, Value.isObject]

theorem walk_visit :
    Value.Hereditary
      (fun v => (∀ className key, Walk m className (visitValue singular m className key v)) ∧
        ∀ className, WalkObjects m className (visitItem singular m className v))
      (fun members => ∀ className, Walk m className (visitMembers singular m className members))
      (fun items => ∀ className,
        WalkObjects m className (visitItems singular m className items)) where
  scalar v hv := by
    cases v with
    | array _ => cases hv
    | object _ => cases hv
    | null => exact ⟨fun _ _ => .null, fun _ => .inl rfl⟩
    | _ => exact ⟨fun _ _ => .scalar rfl, fun _ => .inl rfl⟩
  object members ih := by
    have objects (className : String) :
        WalkObjects m className (visitItem singular m className (.object members)) :=
      .inr ⟨_, rfl, ih className⟩
    refine ⟨?_, objects⟩
    intro className key
    exact Walk.offer (objects (classNameFor key)) nofun
  array items ih := by
    refine ⟨?_, fun _ => .inl rfl⟩
    intro className key
    simp only [visitValue]
    refine (walk_reports m _ className key).append ?_
    cases hk : (ArrayShape.inspect items).kind with
    | empty => exact .nil
    | scalar dataType =>
      obtain ⟨v, _, known, hv⟩ := ArrayShape.exists_item_of_kind_eq_scalar hk
      exact .scalar (ItemShape.isPrimitive_of_scalar known hv)
    | objects =>
      apply Walk.offer (ih (classNameFor (singular key)))
      rw [Ne, visitItems_eq_nil_iff]
      obtain ⟨members, hm⟩ := ArrayShape.kind_eq_objects_iff.mp hk
      exact fun none => Bool.noConfusion (none _ hm)
    | nested => exact .report ⟨key, .inr rfl⟩
  noMembers _ := .nil
  member key v rest hv hrest := by
    intro className
    rw [visitMembers]
    exact (hv.1 className key).append (hrest className)
  noItems _ := .inl rfl
  item v rest hv hrest := by
    intro className
    rw [visitItems]
    exact (hv.2 className).append (hrest className)

theorem walkObjects_visitDocument (d : Document) :
    WalkObjects m (classNameFor d.root) (visitDocument singular m d) := by
  obtain ⟨root, v⟩ := d
  cases v with
  | array items => exact (walk_visit singular m).items items _
  | _ => exact ((walk_visit singular m).value _).2 _

end Visit

end Exemplar
