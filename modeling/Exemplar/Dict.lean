/-! Dictionaries that keep the order in which their keys arrived.

An association list is searched and updated by `Entries`; a `Dict` is one whose keys are known to be
distinct. Adding never moves or overwrites an entry, so the keys of a dictionary only ever grow at
the end. -/
namespace Exemplar

namespace Entries
variable {ν : Type}

def keys (entries : List (String × ν)) : List String :=
  entries.map Prod.fst

def get? : List (String × ν) → String → Option ν
  | [], _ => none
  | (k, v) :: rest, key => if k = key then some v else get? rest key

/-- Sets the value of a key: in place if the key is present, at the end otherwise. -/
def put : List (String × ν) → String → ν → List (String × ν)
  | [], key, value => [(key, value)]
  | (k, v) :: rest, key, value =>
    if k = key then (k, value) :: rest else (k, v) :: put rest key value

/-- Applies a function to the value of a key, in place. -/
def modify (entries : List (String × ν)) (key : String) (f : ν → ν) : List (String × ν) :=
  entries.map fun e => if e.1 = key then (e.1, f e.2) else e

@[simp] theorem keys_nil : keys ([] : List (String × ν)) = [] := rfl

@[simp] theorem keys_cons (e : String × ν) (rest : List (String × ν)) :
    keys (e :: rest) = e.1 :: keys rest := rfl

@[simp] theorem keys_append (a b : List (String × ν)) : keys (a ++ b) = keys a ++ keys b := by
  simp [keys]

@[simp] theorem keys_modify (entries : List (String × ν)) (key : String) (f : ν → ν) :
    keys (modify entries key f) = keys entries := by
  simp only [keys, modify, List.map_map]
  apply List.map_congr_left
  intro e _
  by_cases h : e.1 = key <;> simp [h]

theorem get?_eq_none_iff (entries : List (String × ν)) (key : String) :
    get? entries key = none ↔ key ∉ keys entries := by
  induction entries with
  | nil => simp [get?]
  | cons e rest ih =>
    by_cases h : e.1 = key
    · simp [get?, h]
    · simp [get?, h, ih, Ne.symm h]

theorem get?_eq_some_iff {entries : List (String × ν)} (nodup : (keys entries).Nodup)
    {key : String} {value : ν} : get? entries key = some value ↔ (key, value) ∈ entries := by
  induction entries with
  | nil => simp [get?]
  | cons e rest ih =>
    obtain ⟨k, v⟩ := e
    obtain ⟨fresh, nodup⟩ := List.nodup_cons.1 nodup
    by_cases h : k = key
    · subst h
      have absent : (k, value) ∉ rest := fun hm => fresh (List.mem_map.2 ⟨_, hm, rfl⟩)
      simp [get?, absent, eq_comm]
    · simp [get?, h, ih nodup, Ne.symm h]

theorem get?_append (a b : List (String × ν)) (key : String) :
    get? (a ++ b) key = (get? a key).or (get? b key) := by
  induction a with
  | nil => simp [get?]
  | cons e rest ih =>
    by_cases h : e.1 = key
    · simp [get?, h]
    · simp [get?, h, ih]

theorem get?_modify (entries : List (String × ν)) (key other : String) (f : ν → ν) :
    get? (modify entries key f) other
      = if other = key then (get? entries other).map f else get? entries other := by
  induction entries with
  | nil => simp [get?, modify]
  | cons e rest ih =>
    simp only [modify, List.map_cons] at ih ⊢
    by_cases hk : e.1 = key <;> by_cases ho : e.1 = other
    · simp [get?, hk, ← ho]
    · have hne : ¬ key = other := fun h => ho (hk.trans h)
      simp [get?, hk, hne, ih]
    · have hne : ¬ other = key := fun h => hk (ho.trans h)
      simp [get?, ho, hne]
    · simp [get?, hk, ho, ih]

theorem get?_map (entries : List (String × ν)) (key : String) (f : ν → ν) :
    get? (entries.map fun e => (e.1, f e.2)) key = (get? entries key).map f := by
  induction entries with
  | nil => rfl
  | cons e rest ih =>
    by_cases h : e.1 = key
    · simp [get?, h]
    · simp [get?, h, ih]

theorem keys_put (entries : List (String × ν)) (key : String) (value : ν) :
    keys (put entries key value)
      = if key ∈ keys entries then keys entries else keys entries ++ [key] := by
  induction entries with
  | nil => simp [put]
  | cons e rest ih =>
    by_cases h : e.1 = key
    · simp [put, h]
    · by_cases hm : key ∈ keys rest <;> simp [put, h, ih, hm, Ne.symm h]

end Entries

structure Dict (ν : Type) where
  entries : List (String × ν)
  nodup : (Entries.keys entries).Nodup
  deriving DecidableEq

namespace Dict
variable {ν : Type}

def empty : Dict ν := ⟨[], List.nodup_nil⟩

instance : EmptyCollection (Dict ν) := ⟨empty⟩

instance : Inhabited (Dict ν) := ⟨empty⟩

/-- The keys in order of arrival. -/
def keys (d : Dict ν) : List String :=
  Entries.keys d.entries

def values (d : Dict ν) : List ν :=
  d.entries.map Prod.snd

def size (d : Dict ν) : Nat :=
  d.entries.length

def get? (d : Dict ν) (key : String) : Option ν :=
  Entries.get? d.entries key

/-- Puts an entry at the end; a key that is present keeps its value. -/
def add (d : Dict ν) (key : String) (value : ν) : Dict ν :=
  if h : key ∈ d.keys then d
  else
    ⟨d.entries ++ [(key, value)], by
      rw [Entries.keys_append]
      refine List.nodup_append.2 ⟨d.nodup, by simp, ?_⟩
      intro a ha b hb hab
      simp only [Entries.keys_cons, Entries.keys_nil, List.mem_singleton] at hb
      exact h (hb ▸ hab ▸ ha)⟩

/-- Changes the value of a key and leaves its place; an absent key changes nothing. -/
def modify (d : Dict ν) (key : String) (f : ν → ν) : Dict ν :=
  ⟨Entries.modify d.entries key f, by rw [Entries.keys_modify]; exact d.nodup⟩

/-- Changes every value. -/
def map (d : Dict ν) (f : ν → ν) : Dict ν :=
  ⟨d.entries.map fun e => (e.1, f e.2), by
    have : Entries.keys (d.entries.map fun e => (e.1, f e.2)) = Entries.keys d.entries := by
      simp [Entries.keys, Function.comp_def]
    rw [this]; exact d.nodup⟩

@[ext] theorem ext {a b : Dict ν} (h : a.entries = b.entries) : a = b := by
  cases a; cases b; simp_all

@[simp] theorem keys_empty : (empty : Dict ν).keys = [] := rfl

theorem add_of_mem (d : Dict ν) {key : String} (value : ν) (h : key ∈ d.keys) :
    d.add key value = d :=
  dif_pos h

theorem keys_add (d : Dict ν) (key : String) (value : ν) :
    (d.add key value).keys = if key ∈ d.keys then d.keys else d.keys ++ [key] := by
  by_cases h : key ∈ d.keys
  · rw [add_of_mem d value h, if_pos h]
  · rw [add, dif_neg h, if_neg h]
    simp [keys]

@[simp] theorem keys_modify (d : Dict ν) (key : String) (f : ν → ν) :
    (d.modify key f).keys = d.keys :=
  Entries.keys_modify d.entries key f

@[simp] theorem keys_map (d : Dict ν) (f : ν → ν) : (d.map f).keys = d.keys := by
  simp [keys, Entries.keys, map, Function.comp_def]

theorem get?_eq_none_iff (d : Dict ν) (key : String) : d.get? key = none ↔ key ∉ d.keys :=
  Entries.get?_eq_none_iff d.entries key

theorem get?_add (d : Dict ν) (key other : String) (value : ν) :
    (d.add key value).get? other
      = if other = key then some ((d.get? key).getD value) else d.get? other := by
  by_cases h : key ∈ d.keys
  · have hs : d.get? key ≠ none := fun hn => (get?_eq_none_iff d key).1 hn h
    obtain ⟨v, hv⟩ := Option.ne_none_iff_exists'.1 hs
    by_cases ho : other = key
    · subst ho; simp [add, h, hv]
    · simp [add, h, ho]
  · have hn : d.get? key = none := (get?_eq_none_iff d key).2 h
    by_cases ho : other = key
    · subst ho
      simp only [add, h, dite_false, get?, Entries.get?_append] at *
      simp [hn, Entries.get?]
    · have hk : ¬ key = other := fun e => ho e.symm
      simp [add, h, get?, Entries.get?_append, Entries.get?, ho, hk]

theorem get?_modify (d : Dict ν) (key other : String) (f : ν → ν) :
    (d.modify key f).get? other
      = if other = key then (d.get? other).map f else d.get? other :=
  Entries.get?_modify d.entries key other f

theorem get?_map (d : Dict ν) (f : ν → ν) (key : String) :
    (d.map f).get? key = (d.get? key).map f :=
  Entries.get?_map d.entries key f

theorem mem_values_iff (d : Dict ν) (value : ν) :
    value ∈ d.values ↔ ∃ key, d.get? key = some value := by
  simp [values, get?, Entries.get?_eq_some_iff d.nodup]

end Dict

end Exemplar
