import Exemplar.Proofs.ClassGraph
import Exemplar.Proofs.Rearrangement
import Exemplar.Proofs.Warnings
import Mathlib.Data.List.Nodup

/-!
# Order without conflicts

The first sample wins, so the order of the documents matters, but only to conflicts. Where none of
the samples that a walk meets is refused, the walk goes into every object. It is then the longest walk
over these documents that any model can guide, and the model of any other order accepts all of it as
well. Models of two orders differ in the order of their classes and properties only.
-/
namespace Exemplar
open Json (Value)

/-- The two models hold the same classes with the same properties, in whatever order. -/
structure Model.SameClasses (m n : Model) : Prop where
  names : m.names.Perm n.names
  classNames : ∀ name, (m.classOf name).name = (n.classOf name).name
  properties : ∀ name,
    (m.classOf name).properties.entries.Perm (n.classOf name).properties.entries

namespace Dict
variable {ν : Type}

theorem perm_keys {a b : Dict ν} (h : ∀ key, key ∈ a.keys ↔ key ∈ b.keys) : a.keys.Perm b.keys :=
  (List.perm_ext_iff_of_nodup a.nodup b.nodup).mpr h

theorem perm_entries {a b : Dict ν} (h : ∀ key, a.get? key = b.get? key) :
    a.entries.Perm b.entries := by
  rw [List.perm_ext_iff_of_nodup (List.Nodup.of_map _ a.nodup) (List.Nodup.of_map _ b.nodup)]
  rintro ⟨key, value⟩
  rw [← Entries.get?_eq_some_iff a.nodup, ← Entries.get?_eq_some_iff b.nodup]
  exact Eq.congr_left (h key)

end Dict

/-- Two guided walks over one document, `a` by `m` and `b` by `n`: if `m` accepts all that it is
offered, the second walk meets nothing else, and is the same one if `n` accepts what it is offered. -/
structure Follows (m n : Model) (a b : List Event) : Prop where
  subset : m.Accepts a → b ⊆ a
  eq : m.Accepts a → n.Accepts b → b = a

namespace Follows
variable {m n : Model} {a b c d : List Event}

theorem refl (a : List Event) : Follows m n a a :=
  ⟨fun _ => List.Subset.refl a, fun _ _ => rfl⟩

theorem append (hab : Follows m n a b) (hcd : Follows m n c d) : Follows m n (a ++ c) (b ++ d) := by
  constructor
  · intro accepts
    have left := hab.subset (accepts.subset _ (List.subset_append_left a c))
    have right := hcd.subset (accepts.subset _ (List.subset_append_right a c))
    exact List.append_subset.mpr ⟨List.subset_append_of_subset_left c left,
      List.subset_append_of_subset_right a right⟩
  · intro acceptsM acceptsN
    rw [hab.eq (acceptsM.subset _ (List.subset_append_left a c))
        (acceptsN.subset _ (List.subset_append_left b d)),
      hcd.eq (acceptsM.subset _ (List.subset_append_right a c))
        (acceptsN.subset _ (List.subset_append_right b d))]

theorem cons (e : Event) (h : Follows m n a b) : Follows m n (e :: a) (e :: b) :=
  (refl [e]).append h

/-- A model that accepts the sample of an object goes into the object. -/
theorem descent {className key other : String} {isArray : Bool} (h : Follows m n a b) :
    Follows m n
      (.sample className key ⟨.named other, isArray⟩ ::
        if m.Has className key ⟨.named other, isArray⟩ then a else [])
      (.sample className key ⟨.named other, isArray⟩ ::
        if n.Has className key ⟨.named other, isArray⟩ then b else []) := by
  have goesOn (o : Model) (rest : List Event)
      (accepts : o.Accepts (.sample className key ⟨.named other, isArray⟩ :: rest)) :
      o.Has className key ⟨.named other, isArray⟩ :=
    accepts _ _ _ List.mem_cons_self nofun
  constructor
  · intro accepts
    rw [if_pos (goesOn m _ accepts)] at accepts ⊢
    by_cases hn : n.Has className key ⟨.named other, isArray⟩
    · rw [if_pos hn]
      exact (h.cons _).subset accepts
    · rw [if_neg hn]
      exact List.cons_subset_cons _ (List.nil_subset a)
  · intro acceptsM acceptsN
    rw [if_pos (goesOn m _ acceptsM)] at acceptsM ⊢
    rw [if_pos (goesOn n _ acceptsN)] at acceptsN ⊢
    exact (h.cons _).eq acceptsM acceptsN

end Follows

section Visit
variable (singular : String → String) (m n : Model)

theorem follows_visit :
    Value.Hereditary
      (fun v =>
        (∀ className key, Follows m n (visitValue singular m className key v)
          (visitValue singular n className key v)) ∧
        ∀ className, Follows m n (visitItem singular m className v)
          (visitItem singular n className v))
      (fun members => ∀ className, Follows m n (visitMembers singular m className members)
        (visitMembers singular n className members))
      (fun items => ∀ className, Follows m n (visitItems singular m className items)
        (visitItems singular n className items)) where
  scalar v hv := by
    cases v with
    | array _ => cases hv
    | object _ => cases hv
    | _ => exact ⟨fun _ _ => .refl _, fun _ => .refl _⟩
  object members ih := by
    constructor
    · intro className key
      exact ((ih (classNameFor key)).cons _).descent
    · intro className
      exact (ih className).cons _
  array items ih := by
    refine ⟨?_, fun _ => .refl _⟩
    intro className key
    simp only [visitValue]
    refine (Follows.refl _).append ?_
    cases (ArrayShape.inspect items).kind with
    | objects => exact (ih (classNameFor (singular key))).descent
    | _ => exact .refl _
  noMembers _ := .refl _
  member key v rest hv hrest := by
    intro className
    rw [visitMembers, visitMembers]
    exact (hv.1 className key).append (hrest className)
  noItems _ := .refl _
  item v rest hv hrest := by
    intro className
    rw [visitItems, visitItems]
    exact (hv.2 className).append (hrest className)

theorem follows_visitAll (documents : List Document) :
    Follows m n (visitAll singular m documents) (visitAll singular n documents) := by
  induction documents with
  | nil => exact .refl _
  | cons d rest ih =>
    obtain ⟨root, v⟩ := d
    refine Follows.append ?_ ih
    cases v with
    | array items => exact (follows_visit singular m n).items items _
    | _ => exact ((follows_visit singular m n).value _).2 _

end Visit

/-- Where all samples with a type agree, the first of them is the same in any order. -/
theorem firstSample_perm {samples others : List Sample} (h : samples.Perm others)
    (agree : ∀ x ∈ samples, ∀ y ∈ samples, x.dataType ≠ .unknown → y.dataType ≠ .unknown → x = y) :
    firstSample samples = firstSample others := by
  cases samples with
  | nil => rw [h.nil_eq]
  | cons x rest =>
    cases others with
    | nil => cases h.eq_nil
    | cons y more =>
      refine congrArg (fun found : Option Sample => some (found.getD ⟨.unknown, false⟩)) ?_
      cases hx : (x :: rest).find? (·.dataType ≠ .unknown) with
      | none =>
        rw [List.find?_eq_none] at hx
        rw [eq_comm, List.find?_eq_none]
        intro z hz
        exact hx z (h.mem_iff.mpr hz)
      | some kept =>
        have typed : kept.dataType ≠ .unknown := by simpa using List.find?_some hx
        have offered := h.mem_iff.mp (List.mem_of_find?_eq_some hx)
        cases hy : (y :: more).find? (·.dataType ≠ .unknown) with
        | none => exact absurd typed (by simpa using List.find?_eq_none.mp hy kept offered)
        | some other =>
          have typed' : other.dataType ≠ .unknown := by simpa using List.find?_some hy
          have offered' := h.mem_iff.mpr (List.mem_of_find?_eq_some hy)
          rw [agree kept (List.mem_of_find?_eq_some hx) other offered' typed typed']

theorem Model.Has.eq {m : Model} {className key : String} {x y : Sample}
    (hx : m.Has className key x) (hy : m.Has className key y) : x = y :=
  Option.some.inj (hx.symm.trans hy)

theorem Event.warnings_congr {m n : Model} (h : ∀ className key,
    m.property? className key = n.property? className key) (e : Event) :
    e.warnings m = e.warnings n := by
  cases e with
  | sample className key offered =>
    simp only [warnings, Model.objections, Model.sample?, h]
  | _ => rfl

section Session
variable (singular : String → String) {documents others : List Document}

/-- The types of a session without conflicts are the only ones that its walk offers, so a session of
the same documents in another order has nothing else to accept. -/
theorem visitAll_eq_of_accepts (rearrangement : Rearrangement documents others) {m : Model}
    (accepts : m.Accepts (visitAll singular m documents)) :
    visitAll singular (Session.observeAll singular ∅ others).model others
      = visitAll singular m others := by
  let n := (Session.observeAll singular ∅ others).model
  have perm := perm_visitAll singular m rearrangement
  have acceptsM : m.Accepts (visitAll singular m others) :=
    accepts.subset m perm.symm.subset
  have follows := follows_visitAll singular m n others
  refine follows.eq acceptsM ?_
  intro className key offered he known
  have replayed := Session.observeAll_eq_replay singular ∅ others (.refl n)
  have later : (Session.replay ∅ (visitAll singular n others)).model.Grows n :=
    replayed ▸ .refl n
  obtain ⟨_, p, hp, typed⟩ := Session.covers_replay ∅ later _ he
  have won := hp
  rw [property?_observeAll, Option.map_eq_some_iff, sessionLog_eq_visitAll] at won
  obtain ⟨kept, hkept, rfl⟩ := won
  have winner := mem_samplesAt.mp (mem_of_firstSample hkept (typed known))
  have same : kept = offered :=
    (acceptsM _ _ _ (follows.subset acceptsM winner) (typed known)).eq
      (acceptsM _ _ _ (follows.subset acceptsM he) known)
  rw [Model.Has, Model.sample?, hp, Option.map_some, Property.sample_ofSample, same]

theorem property?_eq_of_perm
    (perm : (sessionLog singular documents).Perm (sessionLog singular others))
    (accepts : (Session.observeAll singular ∅ documents).model.Accepts (sessionLog singular documents))
    (className key : String) :
    (Session.observeAll singular ∅ documents).model.property? className key
      = (Session.observeAll singular ∅ others).model.property? className key := by
  rw [property?_observeAll, property?_observeAll]
  refine congrArg (Option.map _) (firstSample_perm (perm.filterMap _) ?_)
  intro x hx y hy knownX knownY
  exact (accepts _ _ _ (mem_samplesAt.mp hx) knownX).eq (accepts _ _ _ (mem_samplesAt.mp hy) knownY)

theorem sameClasses_of_perm
    (perm : (sessionLog singular documents).Perm (sessionLog singular others))
    (properties : ∀ className key,
      (Session.observeAll singular ∅ documents).model.property? className key
        = (Session.observeAll singular ∅ others).model.property? className key) :
    (Session.observeAll singular ∅ documents).model.SameClasses
      (Session.observeAll singular ∅ others).model where
  names := by
    apply Dict.perm_keys
    intro name
    change name ∈ Model.names _ ↔ name ∈ Model.names _
    rw [names_observeAll, names_observeAll, List.mem_eraseDups, List.mem_eraseDups]
    exact (perm.filterMap _).mem_iff
  classNames name := by
    rw [← replay_sessionLog, ← replay_sessionLog, Session.name_classOf_replay,
      Session.name_classOf_replay]
  properties name := by
    apply Dict.perm_entries
    intro key
    have same := properties name key
    rw [Model.property?_eq, Model.property?_eq] at same
    exact same

end Session

/-- Documents without conflicts may come in any order, and so may the members of their objects at any
depth: there is no conflict either, the model has the same classes with the same properties, and the
warnings are the same ones. -/
theorem observeAll_rearranged (singular : String → String) {documents others : List Document}
    (rearrangement : Rearrangement documents others)
    (noConflict : ∀ w ∈ (Session.observeAll singular ∅ documents).warnings, w.isConflict = false) :
    let s := Session.observeAll singular ∅ documents
    let t := Session.observeAll singular ∅ others
    (∀ w ∈ t.warnings, w.isConflict = false) ∧ s.model.SameClasses t.model ∧
    s.warnings.Perm t.warnings := by
  intro s t
  have log := sessionLog_eq_visitAll singular documents
  have accepts : s.model.Accepts (sessionLog singular documents) :=
    Session.accepts_of_noConflict ∅ (replay_sessionLog singular documents ▸ .refl _)
      (replay_sessionLog singular documents ▸ noConflict)
  have perm : (sessionLog singular documents).Perm (sessionLog singular others) := by
    rw [log, sessionLog_eq_visitAll singular others,
      visitAll_eq_of_accepts singular rearrangement (log ▸ accepts)]
    exact perm_visitAll singular s.model rearrangement
  have properties := property?_eq_of_perm singular perm accepts
  have warnings : s.warnings.Perm t.warnings := by
    rw [Session.warnings_observeAll singular ∅ documents (.refl _),
      Session.warnings_observeAll singular ∅ others (.refl _), ← log,
      ← sessionLog_eq_visitAll singular others]
    refine List.Perm.append_left _ ?_
    rw [funext (Event.warnings_congr properties)]
    exact perm.flatMap_right _
  refine ⟨?_, sameClasses_of_perm singular perm properties, warnings⟩
  intro w hw
  exact noConflict w (warnings.mem_iff.mpr hw)

/-- The document that fills a placeholder comes after the null in one order and before it in the
other, and the class that it fills in is met inside itself. -/
theorem observeAll_rearranged_nodes :
    let documents : List Document :=
      [⟨"list", .object
          [("size", .number (.integer 2)), ("node", .null),
            ("marks", .array [.string "a", .bool true])]⟩,
        ⟨"list", .object
          [("node", .object [("node", .object [("v", .null)]), ("v", .number (.integer 1))])]⟩]
    let others : List Document :=
      [⟨"list", .object
          [("node", .object [("v", .number (.integer 1)), ("node", .object [("v", .null)])])]⟩,
        ⟨"list", .object
          [("marks", .array [.string "a", .bool true]), ("node", .null),
            ("size", .number (.integer 2))]⟩]
    let s := Session.observeAll Naming.singular ∅ documents
    let t := Session.observeAll Naming.singular ∅ others
    Rearrangement documents others ∧ (∀ w ∈ s.warnings, w.isConflict = false) ∧
    s.model.SameClasses t.model ∧ s.model ≠ t.model ∧
    s.warnings.Perm t.warnings ∧ s.warnings = [.mixedArray "List" "marks"] := by
  intro documents others s t
  have rearrangement : Rearrangement documents others := by
    refine ⟨_, .swap _ _ [], .cons ⟨rfl, ?node⟩ (.cons ⟨rfl, ?flat⟩ .nil)⟩
    case node =>
      have inner : Value.Rearranged (.object [("v", .null)]) (.object [("v", .null)]) :=
        .object (.cons (.scalar rfl) .nil) (.refl _)
      exact .object (.cons (.object (.cons inner (.cons (.scalar rfl) .nil)) (.swap _ _ [])) .nil)
        (.refl _)
    case flat =>
      have marks : Value.Rearranged (.array [.string "a", .bool true])
          (.array [.string "a", .bool true]) :=
        .array (.cons (.scalar rfl) (.cons (.scalar rfl) .nil))
      exact .object (.cons (.scalar rfl) (.cons (.scalar rfl) (.cons marks .nil)))
        (List.reverse_perm _).symm
  have warned : s.warnings = [.mixedArray "List" "marks"] := by decide +kernel
  have noConflict : ∀ w ∈ s.warnings, w.isConflict = false := by
    rw [warned]
    decide
  obtain ⟨_, same, warnings⟩ := observeAll_rearranged Naming.singular rearrangement noConflict
  exact ⟨rearrangement, noConflict, same, by decide +kernel, warnings, warned⟩

end Exemplar
