import Exemplar.Proofs.Sample

/-!
# Growth of models and sessions

Nothing learnt is taken back. Classes, properties and warnings are only added at the end, and a
property only changes from having no type to having one. Whether a property has a given type is
therefore settled by the first sample with a type, for every later model.
-/
namespace Exemplar

/-- The key and the name stay, and so does the type, except that a missing one may be given. -/
def Property.Settles (p q : Property) : Prop :=
  q.key = p.key ∧ q.name = p.name ∧
    (q.sample = p.sample ∨ p.dataType = .unknown ∧ q.dataType ≠ .unknown)

structure Class.Grows (c d : Class) : Prop where
  keys : c.properties.keys <+: d.properties.keys
  properties : ∀ key p, c.property? key = some p → ∃ q, d.property? key = some q ∧ p.Settles q

structure Model.Grows (m n : Model) : Prop where
  names : m.names <+: n.names
  classes : ∀ name, (m.classOf name).Grows (n.classOf name)

structure Session.Grows (s t : Session) : Prop where
  model : s.model.Grows t.model
  warnings : s.warnings <+: t.warnings

namespace Property

theorem Settles.refl (p : Property) : p.Settles p :=
  ⟨rfl, rfl, .inl rfl⟩

theorem Settles.trans {p q r : Property} (hpq : p.Settles q) (hqr : q.Settles r) :
    p.Settles r := by
  obtain ⟨key, name, type⟩ := hpq
  obtain ⟨key', name', type'⟩ := hqr
  refine ⟨key'.trans key, name'.trans name, ?_⟩
  rcases type with same | ⟨unknown, known⟩
  · rcases type' with same' | ⟨unknown', known'⟩
    · exact .inl (same'.trans same)
    · have hp : p.dataType = .unknown := (congrArg Sample.dataType same).symm.trans unknown'
      exact .inr ⟨hp, known'⟩
  · rcases type' with same' | ⟨unknown', _⟩
    · have hr : r.dataType = q.dataType := congrArg Sample.dataType same'
      exact .inr ⟨unknown, hr ▸ known⟩
    · exact absurd unknown' known

/-- A property that has a type stays as it is. -/
theorem Settles.eq_of_known {p q : Property} (h : p.Settles q) (known : p.dataType ≠ .unknown) :
    q = p := by
  obtain ⟨key, name, same | ⟨unknown, _⟩⟩ := h
  · have type : q.dataType = p.dataType := congrArg Sample.dataType same
    have array : q.isArray = p.isArray := congrArg Sample.isArray same
    cases p; cases q; simp_all
  · exact absurd unknown known

theorem settles_settle (p : Property) (sample : Sample) : p.Settles (p.settle sample) := by
  by_cases h : p.dataType = .unknown ∧ sample.dataType ≠ .unknown
  · rw [settle, if_pos h]
    exact ⟨rfl, rfl, .inr h⟩
  · rw [settle, if_neg h]
    exact .refl p

theorem settle_dataType_ne_unknown (p : Property) {sample : Sample}
    (known : sample.dataType ≠ .unknown) : (p.settle sample).dataType ≠ .unknown := by
  by_cases h : p.dataType = .unknown
  · simp [settle, h, known]
  · simp [settle, h]

end Property

namespace Class

theorem Grows.refl (c : Class) : c.Grows c :=
  ⟨List.prefix_refl _, fun _ p h => ⟨p, h, .refl p⟩⟩

theorem Grows.trans {c d e : Class} (hcd : c.Grows d) (hde : d.Grows e) : c.Grows e := by
  refine ⟨hcd.keys.trans hde.keys, ?_⟩
  intro key p hp
  obtain ⟨q, hq, hpq⟩ := hcd.properties key p hp
  obtain ⟨r, hr, hqr⟩ := hde.properties key q hq
  exact ⟨r, hr, hpq.trans hqr⟩

theorem grows_absorb (c : Class) (key : String) (sample : Sample) :
    c.Grows (c.absorb key sample) := by
  constructor
  · rw [keys_absorb]
    by_cases h : key ∈ c.properties.keys <;> simp [h]
  · intro other p hp
    by_cases h : other = key
    · subst h
      exact ⟨p.settle sample, by simp [property?_absorb, hp], p.settles_settle sample⟩
    · exact ⟨p, by simp [property?_absorb, hp, h], .refl p⟩

end Class

namespace Model

theorem Grows.refl (m : Model) : m.Grows m :=
  ⟨List.prefix_refl _, fun _ => .refl _⟩

theorem Grows.trans {m n o : Model} (hmn : m.Grows n) (hno : n.Grows o) : m.Grows o :=
  ⟨hmn.names.trans hno.names, fun name => (hmn.classes name).trans (hno.classes name)⟩

theorem grows_register (m : Model) (name : String) : m.Grows (m.register name) := by
  constructor
  · rw [names_register]
    by_cases h : name ∈ m.names <;> simp [h]
  · intro other
    rw [classOf_register]
    exact .refl _

theorem Grows.property? {m n : Model} (h : m.Grows n) {className key : String} {p : Property}
    (hp : m.property? className key = some p) :
    ∃ q, n.property? className key = some q ∧ p.Settles q := by
  rw [property?_eq] at hp ⊢
  exact (h.classes className).properties key p hp

/-- A type that was given stays. -/
theorem Grows.property?_eq {m n : Model} (h : m.Grows n) {className key : String} {p : Property}
    (hp : m.property? className key = some p) (known : p.dataType ≠ .unknown) :
    n.property? className key = some p := by
  obtain ⟨q, hq, hpq⟩ := h.property? hp
  rw [hq, hpq.eq_of_known known]

theorem Grows.has_iff {m n : Model} (h : m.Grows n) {className key : String} {p : Property}
    (hp : m.property? className key = some p) (known : p.dataType ≠ .unknown) (sample : Sample) :
    n.Has className key sample ↔ m.Has className key sample := by
  rw [Has, Has, sample?, sample?, hp, h.property?_eq hp known]

end Model

namespace Session

theorem Grows.refl (s : Session) : s.Grows s :=
  ⟨.refl _, List.prefix_refl _⟩

theorem Grows.trans {s t u : Session} (hst : s.Grows t) (htu : t.Grows u) : s.Grows u :=
  ⟨hst.model.trans htu.model, hst.warnings.trans htu.warnings⟩

theorem grows_register (s : Session) (className : String) : s.Grows (s.register className) :=
  ⟨s.model.grows_register className, List.prefix_refl _⟩

theorem grows_warn (s : Session) (w : Warning) : s.Grows (s.warn w) :=
  ⟨.refl _, List.prefix_append _ _⟩

theorem grows_record (s : Session) (className key : String) (sample : Sample) :
    s.Grows (s.record className key sample).1 := by
  constructor
  · constructor
    · rw [names_record]
      exact (s.model.grows_register className).names
    · intro other
      rw [classOf_record]
      by_cases h : other = className
      · subst h
        simpa using Class.grows_absorb _ key sample
      · simpa [h] using Class.Grows.refl _
  · rw [warnings_record]
    exact List.prefix_append _ _

/-- A sample leaves its property with a type, unless it has none itself. -/
theorem exists_property?_record (s : Session) (className key : String) (sample : Sample) :
    ∃ p, (s.record className key sample).1.model.property? className key = some p ∧
      (sample.dataType ≠ .unknown → p.dataType ≠ .unknown) := by
  rw [property?_record, if_pos ⟨rfl, rfl⟩]
  cases s.model.property? className key with
  | none => exact ⟨_, rfl, id⟩
  | some p => exact ⟨_, rfl, p.settle_dataType_ne_unknown⟩

/-- Whether a sample with a type was accepted can be read off every later model. -/
theorem record_answer_iff (s : Session) (className key : String) {sample : Sample} {m : Model}
    (known : sample.dataType ≠ .unknown) (later : (s.record className key sample).1.model.Grows m) :
    (s.record className key sample).2 = true ↔ m.Has className key sample := by
  obtain ⟨p, hp, typed⟩ := s.exists_property?_record className key sample
  rw [record_answer, later.has_iff hp (typed known)]

end Session

end Exemplar
