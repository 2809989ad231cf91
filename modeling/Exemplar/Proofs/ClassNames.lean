import Exemplar.Proofs.ClassGraph
import Exemplar.Proofs.PascalCase

/-!
# How classes get their names

A sample that names a class names it after its own key: the class of an object after the key, and the
class of the objects of an array after the singular of the key. The first sample of a property hands
this on to the property, so the model refers to no other classes; and as every class is reached from
that of a root, each class of a session is the class of some key.
-/
namespace Exemplar
open Json (Value)

variable (singular : String → String)

/-- The class that objects belong to under a key or, in an array, under its singular. -/
def classUnder (key : String) (isArray : Bool) : String :=
  classNameFor (if isArray then singular key else key)

/-- The class that a sample names is that of its key. -/
def Event.NamedByKey : Event → Prop
  | .sample _ key offered =>
    ∀ other, offered.dataType = .named other → other = classUnder singular key offered.isArray
  | _ => True

/-- The classes that properties name are those of their keys. -/
def Model.NamedByKeys (m : Model) : Prop :=
  ∀ className key p, m.property? className key = some p →
    ∀ other, p.dataType = .named other → other = classUnder singular key p.isArray

section Visit
variable (m : Model)

theorem namedByKey_reports (shape : ArrayShape) (className key : String) :
    ∀ e ∈ shape.reports className key, e.NamedByKey singular := by
  intro e he
  rw [ArrayShape.reports] at he
  split at he
  · cases List.mem_singleton.mp he
    trivial
  · cases he

theorem namedByKey_offer (className key : String) (isArray : Bool) {events : List Event}
    (inside : ∀ e ∈ events, e.NamedByKey singular) :
    let other := classUnder singular key isArray
    ∀ e ∈ Event.sample className key ⟨.named other, isArray⟩ ::
        (if m.Has className key ⟨.named other, isArray⟩ then events else []),
      e.NamedByKey singular := by
  intro other
  refine List.forall_mem_cons.mpr ⟨?_, ?_⟩
  · intro named same
    exact (DataType.named.inj same).symm
  · split
    · exact inside
    · exact List.forall_mem_nil _

theorem namedByKey_visit :
    Value.Hereditary
      (fun v =>
        (∀ className key, ∀ e ∈ visitValue singular m className key v, e.NamedByKey singular) ∧
        ∀ className, ∀ e ∈ visitItem singular m className v, e.NamedByKey singular)
      (fun members => ∀ className,
        ∀ e ∈ visitMembers singular m className members, e.NamedByKey singular)
      (fun items => ∀ className,
        ∀ e ∈ visitItems singular m className items, e.NamedByKey singular) where
  scalar v hv := by
    cases v with
    | array _ => cases hv
    | object _ => cases hv
    | _ =>
      refine ⟨?_, fun _ => List.forall_mem_nil _⟩
      intro className key e he
      cases List.mem_singleton.mp he
      intro other named
      cases named
  object members ih := by
    have entry (className : String) :
        ∀ e ∈ visitItem singular m className (.object members), e.NamedByKey singular :=
      List.forall_mem_cons.mpr ⟨trivial, ih className⟩
    refine ⟨?_, entry⟩
    intro className key
    exact namedByKey_offer singular m className key false (entry (classNameFor key))
  array items ih := by
    refine ⟨?_, fun _ => List.forall_mem_nil _⟩
    intro className key
    simp only [visitValue]
    refine List.forall_mem_append.mpr ⟨namedByKey_reports singular _ className key, ?_⟩
    cases hk : (ArrayShape.inspect items).kind with
    | empty => exact List.forall_mem_nil _
    | scalar dataType =>
      obtain ⟨v, _, known, hv⟩ := ArrayShape.exists_item_of_kind_eq_scalar hk
      have primitive := ItemShape.isPrimitive_of_scalar known hv
      intro e he
      cases List.mem_singleton.mp he
      rintro other rfl
      cases primitive
    | objects =>
      exact namedByKey_offer singular m className key true (ih (classNameFor (singular key)))
    | nested =>
      intro e he
      cases List.mem_singleton.mp he
      trivial
  noMembers _ := List.forall_mem_nil _
  member key v rest hv hrest := by
    intro className
    rw [visitMembers]
    exact List.forall_mem_append.mpr ⟨hv.1 className key, hrest className⟩
  noItems _ := List.forall_mem_nil _
  item v rest hv hrest := by
    intro className
    rw [visitItems]
    exact List.forall_mem_append.mpr ⟨hv.2 className, hrest className⟩

theorem namedByKey_visitAll (documents : List Document) :
    ∀ e ∈ visitAll singular m documents, e.NamedByKey singular := by
  intro e he
  obtain ⟨⟨root, v⟩, _, he⟩ := List.mem_flatMap.mp he
  cases v with
  | array items => exact (namedByKey_visit singular m).items items _ e he
  | _ => exact ((namedByKey_visit singular m).value _).2 _ e he

end Visit

section Session
variable (documents : List Document)

theorem namedByKeys_observeAll :
    (Session.observeAll singular ∅ documents).model.NamedByKeys singular := by
  intro className key p hp other named
  rw [property?_observeAll, Option.map_eq_some_iff] at hp
  obtain ⟨sample, first, rfl⟩ := hp
  have known : sample.dataType ≠ .unknown := by
    rw [show sample.dataType = .named other from named]
    exact nofun
  have offered := mem_samplesAt.mp (mem_of_firstSample first known)
  rw [sessionLog_eq_visitAll] at offered
  exact namedByKey_visitAll singular _ documents _ offered other named

/-- Every registered class is the class of a key. -/
theorem exists_key_of_mem_names {n : String}
    (h : n ∈ (Session.observeAll singular ∅ documents).model.names) :
    ∃ key, n = classNameFor key := by
  obtain ⟨d, _, _, reaches⟩ := exists_document_of_mem_names singular documents h
  cases reaches with
  | refl => exact ⟨d.root, rfl⟩
  | tail _ last =>
    obtain ⟨key, p, hp, named⟩ := last
    exact ⟨_, namedByKeys_observeAll singular documents _ key p hp n named⟩

end Session

end Exemplar
