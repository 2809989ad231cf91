import Exemplar.Proofs.ClassNames
import Exemplar.Proofs.Solving

/-!
# The JSON view of a model

The view shows a type as a text, and a class by its bare name. A class with the text of another type
would be taken for it; but those texts begin with a lower-case letter, and the name of a class
begins with a character that is its own upper case. So nothing is lost: a type can be read off its
text, and the model is determined by its view.
-/
namespace Exemplar
open Json (Value)

namespace DataType

/-- The texts of the types that are no classes. -/
def plainTexts : List String :=
  [string, int, bool, unknown].map text

/-- The type that a text stands for. -/
def ofText (text : String) : DataType :=
  ([string, int, bool, unknown].find? (·.text = text)).getD (.named text)

/-- The type is no class with the text of another type. -/
def Unmistakable (t : DataType) : Prop :=
  ∀ className, t = .named className → className ∉ plainTexts

theorem ofText_text {t : DataType} (unmistakable : t.Unmistakable) : ofText t.text = t := by
  cases t with
  | named className =>
    have other : [string, int, bool, unknown].find? (·.text = className) = none := by
      rw [List.find?_eq_none]
      intro plain member same
      apply unmistakable className rfl
      exact List.mem_map.mpr ⟨plain, member, by simpa using same⟩
    rw [text, ofText, other, Option.getD_none]
  | _ => rfl

theorem eq_of_text_eq {s t : DataType} (hs : s.Unmistakable) (ht : t.Unmistakable)
    (same : s.text = t.text) : s = t := by
  rw [← ofText_text hs, ← ofText_text ht, same]

end DataType

/-- Lists are equal if their images are, where the function tells their elements apart. -/
theorem eq_of_map_eq {α β : Type} {f : α → β} {as bs : List α}
    (apart : ∀ a ∈ as, ∀ b ∈ bs, f a = f b → a = b) (same : as.map f = bs.map f) : as = bs := by
  induction as generalizing bs with
  | nil => exact (List.map_eq_nil_iff.mp same.symm).symm
  | cons a as ih =>
    cases bs with
    | nil => cases same
    | cons b bs =>
      obtain ⟨first, rest⟩ := List.cons.inj same
      have heads := apart a List.mem_cons_self b List.mem_cons_self first
      have tails := ih (fun a ha b hb => apart a (.tail _ ha) b (.tail _ hb)) rest
      rw [heads, tails]

/-- The types of the properties can be told from their texts. -/
def Class.Unmistakable (c : Class) : Prop :=
  ∀ p ∈ c.properties.values, p.dataType.Unmistakable

def Model.Unmistakable (m : Model) : Prop :=
  ∀ c ∈ m.classes.values, c.Unmistakable

theorem Property.eq_of_toJson_eq {p q : Property} (hp : p.dataType.Unmistakable)
    (hq : q.dataType.Unmistakable) (same : p.toJson = q.toJson) : p = q := by
  obtain ⟨key, name, s, isArray⟩ := p
  obtain ⟨key', name', t, isArray'⟩ := q
  simp only [toJson, Value.object.injEq, List.cons.injEq, Prod.mk.injEq, Value.string.injEq,
    Value.bool.injEq, true_and, and_true] at same
  obtain ⟨rfl, rfl, text, rfl⟩ := same
  have types : s = t := DataType.eq_of_text_eq hp hq text
  rw [types]

theorem Dict.snd_mem_values {ν : Type} {d : Dict ν} {e : String × ν} (h : e ∈ d.entries) :
    e.2 ∈ d.values :=
  List.mem_map_of_mem h

theorem Class.eq_of_toJson_eq {c d : Class} (hc : c.Unmistakable) (hd : d.Unmistakable)
    (same : c.toJson = d.toJson) : c = d := by
  obtain ⟨name, properties⟩ := c
  obtain ⟨name', properties'⟩ := d
  simp only [toJson, Value.object.injEq, List.cons.injEq, Prod.mk.injEq, Value.string.injEq,
    true_and, and_true] at same
  obtain ⟨rfl, members⟩ := same
  have entries : properties.entries = properties'.entries := by
    refine eq_of_map_eq ?_ members
    rintro ⟨key, p⟩ hp ⟨key', q⟩ hq equal
    obtain ⟨rfl, view⟩ := Prod.mk.inj equal
    rw [Property.eq_of_toJson_eq (hc p (Dict.snd_mem_values hp)) (hd q (Dict.snd_mem_values hq))
      view]
  rw [Dict.ext entries]

theorem Model.eq_of_toJson_eq {m n : Model} (hm : m.Unmistakable) (hn : n.Unmistakable)
    (same : m.toJson = n.toJson) : m = n := by
  obtain ⟨classes⟩ := m
  obtain ⟨classes'⟩ := n
  rw [toJson, toJson, Value.object.injEq] at same
  have entries : classes.entries = classes'.entries := by
    refine eq_of_map_eq ?_ same
    rintro ⟨name, c⟩ hc ⟨name', d⟩ hd equal
    obtain ⟨rfl, view⟩ := Prod.mk.inj equal
    rw [Class.eq_of_toJson_eq (hm c (Dict.snd_mem_values hc)) (hn d (Dict.snd_mem_values hd)) view]
  rw [Dict.ext entries]

theorem Naming.IsPascal.notMem_plainTexts {name : String} (pascal : IsPascal name.toList) :
    name ∉ DataType.plainTexts := by
  have lower : ∀ text ∈ DataType.plainTexts,
      text.toList.head?.any (fun c => decide (Unicode.upper c ≠ [c])) = true := by decide +kernel
  intro plain
  obtain ⟨c, begins, moved⟩ := (Option.any_eq_true _ _).mp (lower name plain)
  exact of_decide_eq_true moved (pascal.capitalized c begins)

/-- A model that a session may leave, solved or not. -/
def Model.Inferred (m : Model) : Prop :=
  ∃ singular steps,
    m = (Session.run singular ∅ steps).model ∨ m = (Session.run singular ∅ steps).solve

namespace Model.Inferred
variable {m : Model} (inferred : m.Inferred)
include inferred

theorem isPascal {name : String} (h : name ∈ m.names) : Naming.IsPascal name.toList := by
  obtain ⟨singular, steps, same⟩ := inferred
  have registered : name ∈ (Session.run singular ∅ steps).model.names := by
    rcases same with rfl | rfl
    · exact h
    · rwa [Session.solve, names_solve] at h
  rw [Session.run_eq_observeAll] at registered
  obtain ⟨key, rfl⟩ := exists_key_of_mem_names singular _ registered
  exact isPascal_classNameFor key

theorem closed : m.Closed := by
  obtain ⟨singular, steps, rfl | rfl⟩ := inferred
  · rw [Session.run_eq_observeAll]
    exact closed_observeAll singular _
  · rw [Session.run_eq_observeAll]
    exact (closed_observeAll singular _).solve

theorem notMem_plainTexts {name : String} (known : name ∈ m.names ∨ ∃ owner, m.Refers owner name) :
    name ∉ DataType.plainTexts := by
  have registered : name ∈ m.names := known.elim id fun ⟨owner, refers⟩ =>
    inferred.closed owner name refers
  exact (inferred.isPascal registered).notMem_plainTexts

theorem unmistakable_of_property? {owner key : String} {p : Property}
    (h : m.property? owner key = some p) : p.dataType.Unmistakable :=
  fun _ named => inferred.notMem_plainTexts (.inr ⟨owner, key, p, h, named⟩)

theorem unmistakable : m.Unmistakable := by
  intro c hc p hp
  obtain ⟨owner, registered⟩ := (Dict.mem_values_iff _ _).mp hc
  obtain ⟨key, held⟩ := (Dict.mem_values_iff _ _).mp hp
  have property : m.property? owner key = some p := by
    rw [property?_eq, classOf_eq m registered]
    exact held
  exact inferred.unmistakable_of_property? property

end Model.Inferred

/-- The JSON view of inferred models, solved or not, loses nothing: it is the same for two of them
exactly if they are the same model. No class that such a model registers or refers to has the text
of a type that is no class, so the text of a type in the one always means what it means in the
other. -/
theorem toJson_lossless {m n : Model} (hm : m.Inferred) (hn : n.Inferred) :
    (m.toJson = n.toJson ↔ m = n) ∧
    (∀ name, name ∈ m.names ∨ (∃ owner, m.Refers owner name) →
      name ∉ ["string", "int", "bool", "unknown"]) ∧
    ∀ owner key p owner' key' q, m.property? owner key = some p → n.property? owner' key' = some q →
      (p.dataType.text = q.dataType.text ↔ p.dataType = q.dataType) := by
  refine ⟨⟨Model.eq_of_toJson_eq hm.unmistakable hn.unmistakable, congrArg Model.toJson⟩, ?_, ?_⟩
  · intro name known
    exact hm.notMem_plainTexts known
  · intro owner key p owner' key' q hp hq
    refine ⟨?_, congrArg DataType.text⟩
    exact DataType.eq_of_text_eq (hm.unmistakable_of_property? hp)
      (hn.unmistakable_of_property? hq)

/-- Keys and a root that are called like the types, and a placeholder that is a string once it is
solved: the two models have different views, and the class `String` is no string in either. -/
theorem toJson_lossless_plain :
    let value : Value := .object
      [("string", .object [("unknown", .null)]), ("int", .array [.object [("bool", .bool true)]])]
    let s := Session.run Naming.singular ∅ [.observe "bool" value]
    let m := s.model
    let n := s.solve
    m.Inferred ∧ n.Inferred ∧ m ≠ n ∧ m.toJson ≠ n.toJson ∧ m.names = ["Bool", "String", "Int"] ∧
    "String" ∉ ["string", "int", "bool", "unknown"] ∧
    m.property? "Bool" "string" = some ⟨"string", "String", .named "String", false⟩ ∧
    n.property? "String" "unknown" = some ⟨"unknown", "Unknown", .string, false⟩ ∧
    (DataType.named "String").text ≠ DataType.string.text := by
  intro value s m n
  have hm : m.Inferred := ⟨Naming.singular, [.observe "bool" value], .inl rfl⟩
  have hn : n.Inferred := ⟨Naming.singular, [.observe "bool" value], .inr rfl⟩
  obtain ⟨views, names, texts⟩ := toJson_lossless hm hn
  have different : m ≠ n := by decide +kernel
  have registered : m.names = ["Bool", "String", "Int"] := by decide +kernel
  have hp : m.property? "Bool" "string" = some ⟨"string", "String", .named "String", false⟩ := by
    decide +kernel
  have hq : n.property? "String" "unknown" = some ⟨"unknown", "Unknown", .string, false⟩ := by
    decide +kernel
  refine ⟨hm, hn, different, fun same => different (views.mp same), registered, ?_, hp, hq, ?_⟩
  · exact names "String" (.inl (registered ▸ .tail _ (.head _)))
  · intro same
    exact DataType.noConfusion ((texts _ _ _ _ _ _ hp hq).mp same)

end Exemplar
