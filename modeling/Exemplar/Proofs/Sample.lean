import Exemplar.Inference.Session

/-!
# What one sample does

A session is seen through four views: the names of its classes, the class of each name, the warnings,
and the answer given for a sample. Each view of `Session.record` has one equation here, so that later
proofs do not open its branches.
-/
namespace Exemplar

/-- The property that a first sample leaves. -/
def Property.ofSample (key : String) (sample : Sample) : Property :=
  ⟨key, Naming.pascalCase key, sample.dataType, sample.isArray⟩

/-- The property after a further sample: only one without a type changes, and only for a type. -/
def Property.settle (p : Property) (sample : Sample) : Property :=
  if p.dataType = .unknown ∧ sample.dataType ≠ .unknown then
    { p with dataType := sample.dataType, isArray := sample.isArray }
  else p

@[simp] theorem DataType.isUnknown_iff (t : DataType) : t.isUnknown = true ↔ t = .unknown := by
  cases t <;> simp [isUnknown]

@[simp] theorem DataType.isUnknown_eq_false_iff (t : DataType) :
    t.isUnknown = false ↔ t ≠ .unknown := by
  cases t <;> simp [isUnknown]

@[simp] theorem Property.sample_ofSample (key : String) (sample : Sample) :
    (ofSample key sample).sample = sample := rfl

theorem Property.settle_known (p : Property) (sample : Sample) (known : p.dataType ≠ .unknown) :
    p.settle sample = p := by
  simp [settle, known]

theorem Property.settle_unknown (p : Property) (sample : Sample)
    (unknown : sample.dataType = .unknown) : p.settle sample = p := by
  simp [settle, unknown]

@[simp] theorem Property.settle_self (p : Property) : p.settle p.sample = p := by
  by_cases h : p.dataType = .unknown <;> simp [settle, Property.sample, h]

theorem Property.sample_settle (p : Property) {sample : Sample} (unknown : p.dataType = .unknown)
    (known : sample.dataType ≠ .unknown) : (p.settle sample).sample = sample := by
  simp [settle, unknown, known, Property.sample]

namespace Class

/-- The class after a sample of one of its properties. -/
def absorb (c : Class) (key : String) (sample : Sample) : Class :=
  (c.addProperty key sample.dataType sample.isArray).resolve key sample.dataType sample.isArray

theorem name_absorb (c : Class) (key : String) (sample : Sample) :
    (c.absorb key sample).name = c.name := by
  rw [absorb, resolve]
  split <;> rfl

theorem keys_absorb (c : Class) (key : String) (sample : Sample) :
    (c.absorb key sample).properties.keys
      = if key ∈ c.properties.keys then c.properties.keys else c.properties.keys ++ [key] := by
  rw [absorb, keys_resolve, keys_addProperty]

theorem property?_absorb (c : Class) (key other : String) (sample : Sample) :
    (c.absorb key sample).property? other
      = if other = key then
          some ((c.property? key).elim (.ofSample key sample) (·.settle sample))
        else c.property? other := by
  rw [absorb, property?_resolve, isPlaceholder]
  simp only [property?_addProperty, if_true]
  by_cases h : other = key
  · subst h
    cases hp : c.property? other with
    | none => by_cases hx : sample.dataType = .unknown <;> simp [hx, Property.ofSample]
    | some p =>
      by_cases hu : p.dataType = .unknown <;> by_cases hx : sample.dataType = .unknown <;>
        simp [Property.settle, hu, hx]
  · simp [h]

theorem addProperty_of_some (c : Class) {key : String} {p : Property} (dataType : DataType)
    (isArray : Bool) (h : c.property? key = some p) : c.addProperty key dataType isArray = c := by
  have mem : key ∈ c.properties.keys := by rw [mem_keys_iff, h]; simp
  rw [addProperty, Dict.add_of_mem _ _ mem]

theorem resolve_of_isPlaceholder_eq_false (c : Class) {key : String} {dataType : DataType}
    (isArray : Bool) (h : c.isPlaceholder key dataType = false) :
    c.resolve key dataType isArray = c := by
  simp [resolve, h]

theorem absorb_of_none (c : Class) {key : String} (sample : Sample) (h : c.property? key = none) :
    c.absorb key sample = c.addProperty key sample.dataType sample.isArray := by
  apply resolve_of_isPlaceholder_eq_false
  by_cases hx : sample.dataType = .unknown <;> simp [isPlaceholder, property?_addProperty, h, hx]

theorem absorb_of_some (c : Class) {key : String} {p : Property} (sample : Sample)
    (h : c.property? key = some p) :
    c.absorb key sample = c.resolve key sample.dataType sample.isArray := by
  rw [absorb, addProperty_of_some c _ _ h]

/-- A class changes by a sample only if the property is new or gets its type. -/
theorem absorb_of_settled (c : Class) {key : String} {p : Property} (sample : Sample)
    (h : c.property? key = some p) (settled : p.dataType ≠ .unknown ∨ sample.dataType = .unknown) :
    c.absorb key sample = c := by
  rw [absorb_of_some c sample h]
  apply resolve_of_isPlaceholder_eq_false
  rcases settled with known | unknown
  · simp [isPlaceholder, h, known]
  · simp [isPlaceholder, unknown]

end Class

namespace Model

/-- The type that a model has for a property. -/
def sample? (m : Model) (className key : String) : Option Sample :=
  (m.property? className key).map (·.sample)

/-- Whether a property has exactly the type of a sample. -/
def Has (m : Model) (className key : String) (sample : Sample) : Prop :=
  m.sample? className key = some sample

instance (m : Model) (className key : String) (sample : Sample) :
    Decidable (m.Has className key sample) :=
  inferInstanceAs (Decidable (_ = _))

/-- The warnings that a sample gives rise to: one if the property has another type already. -/
def objections (m : Model) (className key : String) (sample : Sample) : List Warning :=
  match m.sample? className key with
  | none => []
  | some kept =>
    if kept = sample ∨ sample.dataType = .unknown ∨ kept.dataType = .unknown then []
    else [.conflictingSample className key kept.text sample.text]

end Model

namespace Session
variable (s : Session) (className key : String) (sample : Sample)

/-- All that recording a sample can do. -/
@[elab_as_elim]
theorem record_cases {P : Session × Bool → Prop}
    (new : s.model.property? className key = none →
      P ({ s with model := s.model.addProperty className key sample.dataType sample.isArray }, true))
    (same : ∀ p, s.model.property? className key = some p → p.sample = sample →
      P (s.register className, true))
    (null : ∀ p, s.model.property? className key = some p → p.sample ≠ sample →
      sample.dataType = .unknown → P (s.register className, false))
    (filled : ∀ p, s.model.property? className key = some p → p.dataType = .unknown →
      sample.dataType ≠ .unknown →
      P ({ s with model := s.model.resolve className key sample.dataType sample.isArray }, true))
    (conflict : ∀ p, s.model.property? className key = some p → p.sample ≠ sample →
      p.dataType ≠ .unknown → sample.dataType ≠ .unknown →
      P ((s.register className).warn
        (.conflictingSample className key p.sample.text sample.text), false)) :
    P (s.record className key sample) := by
  have view : (s.register className).model.property? className key
      = s.model.property? className key := by
    rw [register, Model.property?_eq, Model.property?_eq, Model.classOf_register]
  rw [record, view]
  cases hp : s.model.property? className key with
  | none => simpa [register, Model.addProperty, Model.update] using new hp
  | some p =>
    by_cases hs : p.sample = sample
    · simpa [hs] using same p hp hs
    · by_cases hx : sample.dataType = .unknown
      · simpa [hs, hx] using null p hp hs hx
      · by_cases hu : p.dataType = .unknown
        · simpa [hs, hx, hu, register, Model.resolve, Model.update] using filled p hp hu hx
        · simpa [hs, hx, hu] using conflict p hp hs hu hx

theorem names_record :
    (s.record className key sample).1.model.names = (s.model.register className).names := by
  refine record_cases s className key sample ?new ?same ?null ?filled ?conflict
  case new => intro _; exact Model.names_update ..
  case filled => intro _ _ _ _; exact Model.names_update ..
  all_goals intros; rfl

theorem classOf_record (other : String) :
    (s.record className key sample).1.model.classOf other
      = if other = className then (s.model.classOf className).absorb key sample
        else s.model.classOf other := by
  have settled (p : Property) (hp : s.model.property? className key = some p)
      (h : p.dataType ≠ .unknown ∨ sample.dataType = .unknown) :
      s.model.classOf other
        = if other = className then (s.model.classOf className).absorb key sample
          else s.model.classOf other := by
    rw [Model.property?_eq] at hp
    rw [Class.absorb_of_settled _ sample hp h]
    by_cases ho : other = className <;> simp [ho]
  refine record_cases s className key sample ?new ?same ?null ?filled ?conflict
  case new =>
    intro hp
    rw [Model.property?_eq] at hp
    rw [Class.absorb_of_none _ sample hp]
    exact Model.classOf_update ..
  case same =>
    intro p hp hs
    simp only [register, Model.classOf_register]
    subst hs
    exact settled p hp (Classical.em (p.dataType = .unknown)).symm
  case null =>
    intro p hp _ hx
    simp only [register, Model.classOf_register]
    exact settled p hp (.inr hx)
  case filled =>
    intro p hp _ _
    rw [Model.property?_eq] at hp
    rw [Class.absorb_of_some _ sample hp]
    exact Model.classOf_update ..
  case conflict =>
    intro p hp _ hk _
    simp only [register, warn, Model.classOf_register]
    exact settled p hp (.inl hk)

theorem warnings_record :
    (s.record className key sample).1.warnings
      = s.warnings ++ s.model.objections className key sample := by
  refine record_cases s className key sample ?new ?same ?null ?filled ?conflict
  case new => intro hp; simp [Model.objections, Model.sample?, hp]
  case same => intro p hp hs; simp [Model.objections, Model.sample?, hp, hs, register]
  case null => intro p hp _ hx; simp [Model.objections, Model.sample?, hp, hx, register]
  case filled => intro p hp hu _; simp [Model.objections, Model.sample?, hp, hu, Property.sample]
  case conflict =>
    intro p hp hs hk hx
    have hk' : p.sample.dataType ≠ .unknown := hk
    simp [Model.objections, Model.sample?, hp, hs, hk', hx, register, warn]

theorem property?_record (other otherKey : String) :
    (s.record className key sample).1.model.property? other otherKey
      = if other = className ∧ otherKey = key then
          some ((s.model.property? className key).elim (.ofSample key sample) (·.settle sample))
        else s.model.property? other otherKey := by
  rw [Model.property?_eq, classOf_record]
  by_cases hc : other = className
  · subst hc
    rw [if_pos rfl, Class.property?_absorb]
    simp [Model.property?_eq]
  · simp [hc, Model.property?_eq]

/-- The answer says whether the property has the type of the sample afterwards. -/
theorem record_answer :
    (s.record className key sample).2 = true
      ↔ (s.record className key sample).1.model.Has className key sample := by
  rw [Model.Has, Model.sample?, property?_record, if_pos ⟨rfl, rfl⟩, Option.map_some,
    Option.some.injEq]
  refine record_cases s className key sample ?new ?same ?null ?filled ?conflict
  case new => intro hp; simp [hp]
  case same => intro p hp hs; simp [hp, ← hs]
  case null => intro p hp hs hx; simp [hp, hs, Property.settle_unknown p sample hx]
  case filled => intro p hp hu hx; simp [hp, Property.sample_settle p hu hx]
  case conflict => intro p hp hs hk _; simp [hp, hs, Property.settle_known p sample hk]

end Session

end Exemplar
