import Exemplar.Declaration.File
import Exemplar.Proofs.FirstSample
import Exemplar.Proofs.History
import Mathlib.Logic.Relation

/-!
# The graph of classes

A class refers to another if one of its properties has that class as its type. In the model of a
session no reference dangles, and every class is reached from the class of a root under which an
object was observed. While an object is being walked the reference to its class stands before the
class itself; guided by the final model, the walk enters the class right after the sample.
-/
namespace Exemplar
open Json (Value)

namespace Model

def Refers (m : Model) (className other : String) : Prop :=
  ∃ key p, m.property? className key = some p ∧ p.dataType = .named other

/-- A chain of references, possibly of none. -/
def Reaches (m : Model) : String → String → Prop :=
  Relation.ReflTransGen m.Refers

/-- Every class that is referred to is registered. -/
def Closed (m : Model) : Prop :=
  ∀ className other, m.Refers className other → other ∈ m.names

/-- The classes know the names under which they are registered. -/
def WellNamed (m : Model) : Prop :=
  ∀ name c, m.get? name = some c → c.name = name

theorem wellNamed_iff (m : Model) :
    m.WellNamed ↔ ∀ entry ∈ m.classes.entries, entry.2.name = entry.1 := by
  simp only [WellNamed, get?, Dict.get?, Entries.get?_eq_some_iff m.classes.nodup, Prod.forall]

instance (m : Model) : Decidable m.WellNamed :=
  decidable_of_iff _ m.wellNamed_iff.symm

theorem WellNamed.mem_values_iff {m : Model} (named : m.WellNamed) (c : Class) (name : String) :
    c ∈ m.classes.values ∧ c.name = name ↔ m.get? name = some c := by
  rw [Dict.mem_values_iff]
  constructor
  · rintro ⟨⟨key, registered⟩, rfl⟩
    rwa [named key c registered]
  · exact fun registered => ⟨⟨name, registered⟩, named name c registered⟩

theorem Has.refers {m : Model} {className key other : String} {isArray : Bool}
    (h : m.Has className key ⟨.named other, isArray⟩) : m.Refers className other := by
  rw [Has, sample?, Option.map_eq_some_iff] at h
  obtain ⟨p, hp, hs⟩ := h
  exact ⟨key, p, hp, congrArg Sample.dataType hs⟩

end Model

/-- The class of every accepted sample is entered. -/
def Settled (m : Model) (events : List Event) : Prop :=
  ∀ className key other isArray, .sample className key ⟨.named other, isArray⟩ ∈ events →
    m.Has className key ⟨.named other, isArray⟩ → other ∈ entered events

theorem Settled.append {m : Model} {a b : List Event} (ha : Settled m a) (hb : Settled m b) :
    Settled m (a ++ b) := by
  intro className key other isArray he has
  rw [entered_append]
  rcases List.mem_append.mp he with he | he
  · exact List.mem_append_left _ (ha _ _ _ _ he has)
  · exact List.mem_append_right _ (hb _ _ _ _ he has)

section Walk
variable {m : Model} {className : String} {events : List Event}

theorem settled_walk (walk : Walk m className events) : Settled m events := by
  induction walk with
  | nil => exact nofun
  | append _ _ iha ihb => exact iha.append ihb
  | enter => simp [Settled]
  | report => simp [Settled]
  | null => simp [Settled]
  | scalar primitive =>
    intro className key other isArray he
    cases List.mem_singleton.mp he
    cases primitive
  | refused hasNot =>
    intro className key other isArray he has
    cases List.mem_singleton.mp he
    exact absurd has hasNot
  | @accepted _ _ inner _ events _ _ ih =>
    intro className key other isArray he has
    rcases List.mem_cons.mp he with he | he
    · cases he
      exact List.mem_cons_self
    · have later := (List.mem_cons.mp he).resolve_left nofun
      exact List.mem_cons_of_mem inner (ih _ _ _ _ later has)

/-- Every class entered below a class is reached from it. -/
theorem reaches_entered (walk : Walk m className events) :
    ∀ n ∈ entered events, m.Reaches className n := by
  induction walk with
  | nil => exact nofun
  | append _ _ iha ihb =>
    intro n hn
    rw [entered_append] at hn
    exact (List.mem_append.mp hn).elim (iha n) (ihb n)
  | enter =>
    intro n hn
    cases List.mem_singleton.mp hn
    exact .refl
  | report => exact nofun
  | null => exact nofun
  | scalar => exact nofun
  | refused => exact nofun
  | accepted has _ ih =>
    intro n hn
    rcases List.mem_cons.mp hn with rfl | hn
    · exact .single has.refers
    · exact .head has.refers (ih n hn)

end Walk

theorem Session.name_classOf_replay (s : Session) (events : List Event) (name : String) :
    ((s.replay events).model.classOf name).name = (s.model.classOf name).name := by
  induction events generalizing s with
  | nil => rfl
  | cons e rest ih =>
    rw [replay_cons, ih]
    cases e with
    | enter className => rw [apply, register, Model.classOf_register]
    | sample className key x =>
      rw [apply, classOf_record]
      by_cases h : name = className
      · rw [if_pos h, Class.name_absorb, h]
      · rw [if_neg h]
    | report w => rfl

/-- The document holds an object that is folded into the class of its root. -/
def Document.HoldsObject (d : Document) : Prop :=
  match d.value with
  | .array items => ∃ item ∈ items, item.isObject = true
  | v => v.isObject = true

section Visit
variable (singular : String → String) (m : Model)

theorem holdsObject_of_entered (d : Document) {n : String}
    (h : n ∈ entered (visitDocument singular m d)) : d.HoldsObject := by
  obtain ⟨root, v⟩ := d
  cases v with
  | array items =>
    by_contra none
    have empty : visitItems singular m (classNameFor root) items = [] := by
      rw [visitItems_eq_nil_iff]
      intro item hi
      exact Bool.eq_false_iff.mpr fun object => none ⟨item, hi, object⟩
    change n ∈ entered (visitItems singular m (classNameFor root) items) at h
    rw [empty] at h
    cases h
  | object members => rfl
  | _ => cases h

theorem settled_visitAll (documents : List Document) :
    Settled m (visitAll singular m documents) := by
  induction documents with
  | nil => exact nofun
  | cons d rest ih => exact (settled_walk (walkObjects_visitDocument singular m d).walk).append ih

theorem exists_document_of_entered {documents : List Document} {n : String}
    (h : n ∈ entered (visitAll singular m documents)) :
    ∃ d ∈ documents, d.HoldsObject ∧ m.Reaches (classNameFor d.root) n := by
  obtain ⟨e, he, hn⟩ := List.mem_filterMap.mp h
  obtain ⟨d, hd, he⟩ := List.mem_flatMap.mp he
  have entry : n ∈ entered (visitDocument singular m d) := List.mem_filterMap.mpr ⟨e, he, hn⟩
  exact ⟨d, hd, holdsObject_of_entered singular m d entry,
    reaches_entered (walkObjects_visitDocument singular m d).walk n entry⟩

end Visit

section Session
variable (singular : String → String) (documents : List Document)

theorem closed_observeAll : (Session.observeAll singular ∅ documents).model.Closed := by
  rintro className other ⟨key, p, hp, ht⟩
  have has : (Session.observeAll singular ∅ documents).model.Has className key p.sample := by
    simp [Model.Has, Model.sample?, hp]
  rw [property?_observeAll, Option.map_eq_some_iff] at hp
  obtain ⟨⟨dataType, isArray⟩, hx, rfl⟩ := hp
  cases ht
  have offered := mem_samplesAt.mp (mem_of_firstSample hx (by simp))
  rw [sessionLog_eq_visitAll] at offered
  rw [names_observeAll, List.mem_eraseDups, sessionLog_eq_visitAll]
  exact settled_visitAll singular _ documents _ _ _ _ offered has

theorem wellNamed_observeAll : (Session.observeAll singular ∅ documents).model.WellNamed := by
  intro name c hc
  rw [← Model.classOf_eq _ hc, ← replay_sessionLog, Session.name_classOf_replay]
  rfl

/-- No class stands alone: each is reached from the class of a root. -/
theorem exists_document_of_mem_names {n : String}
    (h : n ∈ (Session.observeAll singular ∅ documents).model.names) :
    ∃ d ∈ documents, d.HoldsObject ∧
      (Session.observeAll singular ∅ documents).model.Reaches (classNameFor d.root) n := by
  rw [names_observeAll, List.mem_eraseDups, sessionLog_eq_visitAll] at h
  exact exists_document_of_entered singular _ h

end Session

end Exemplar
