import Exemplar.Filter.Fault

/-! Parts of values: by key, by index, by a range of indexes, or all of them; and values with such
parts changed. Negative indexes count from the end. Where a part is missing or of the wrong kind, an
optional access yields nothing and an optional change leaves the value as it is. -/
namespace Exemplar.Filter.Datum

/-- The kind of a value that has parts. -/
def iterable : String := "iterable (array or object)"

/-- The index counted from the front, which may lie past the end. -/
def fromFront? (i : Int) (length : Nat) : Option Nat :=
  if 0 ≤ i then some i.toNat else if length < i.natAbs then none else some (length - i.natAbs)

/-- An index inside a list of the given length. -/
def position? (i : Int) (length : Nat) : Option Nat :=
  (fromFront? i length).filter (· < length)

/-- The part at a key or index. A missing key or index has the value null. -/
def index (v i : Datum) : Result Datum :=
  match v, i with
  | array items, int i => .ok (((position? i items.length).bind (items[·]?)).getD null)
  | object members, string key => .ok ((Entries.get? members key).getD null)
  | array _, _ => .error (.notIndexable v i)
  | object _, _ => .error (.notIndexable v i)
  | _, _ => .error (.notUsable v iterable)

/-- The items of an array or the values of an object. -/
def parts (v : Datum) : Outputs :=
  match v with
  | array items => Lazy.ofList (items.map .ok)
  | object members => Lazy.ofList (members.map fun m => .ok m.2)
  | _ => Outputs.fault (.notUsable v iterable)

/-- An end of a range, if there is one. -/
def bound? : Option Datum → Result (Option Int)
  | none => .ok none
  | some (int i) => .ok (some i)
  | some v => .error (.notUsable v "integer")

/-- The end as a position up to the length. -/
def clip (i : Option Int) (length default : Nat) : Nat :=
  match i with
  | none => default
  | some i => min ((fromFront? i length).getD 0) length

/-- The first position of a range and the number of positions in it. -/
def range (lower upper : Option Datum) (length : Nat) : Result (Nat × Nat) := do
  let start := clip (← bound? lower) length 0
  let stop := clip (← bound? upper) length length
  return (start, stop - start)

/-- The items or characters in a range. -/
def slice (v : Datum) (lower upper : Option Datum) : Result Datum := do
  match v with
  | array items =>
    let (start, count) ← range lower upper items.length
    return array ((items.drop start).take count)
  | string text =>
    let chars := text.toList
    let (start, count) ← range lower upper chars.length
    return string (String.ofList ((chars.drop start).take count))
  | _ => throw (.notUsable v "rangeable (array or string)")

/-- Fails with a fault, unless the change is optional. -/
def unlessOptional (optional : Bool) (v : Datum) (e : Fault) : Result Datum :=
  if optional then .ok v else .error e

/-- An entry without a value leaves the last one in its place. -/
def swapRemove (members : List (String × Datum)) (key : String) : List (String × Datum) :=
  match members.getLast? with
  | none => []
  | some last =>
    let others := members.dropLast
    if last.1 = key then others else others.map fun m => if m.1 = key then last else m

/-- Puts the outputs of a function in place of each item, or the first output in place of the value
of each member; a member without output goes. -/
def changeParts (optional : Bool) (f : Datum → Outputs) (v : Datum) : Result Datum :=
  match v with
  | array items => do
    return array (← items.mapM fun x => Outputs.collect (f x)).flatten
  | object members => do
    let changed ← members.filterMapM fun (k, x) => do
      return (← Outputs.first (f x)).map ((k, ·))
    return object changed
  | _ => unlessOptional optional v (.notUsable v iterable)

/-- Puts the first output of a function in place of the part at a key or index. Without an output the
part goes; a missing key is added. -/
def changeIndex (optional : Bool) (i : Datum) (f : Datum → Outputs) (v : Datum) : Result Datum :=
  match v, i with
  | object members, string key => do
    match Entries.get? members key, ← Outputs.first (f ((Entries.get? members key).getD null)) with
    | _, some y => return object (Entries.put members key y)
    | some _, none => return object (swapRemove members key)
    | none, none => return v
  | object _, _ => unlessOptional optional v (.notIndexable v i)
  | array items, int i =>
    match position? i items.length with
    | none => unlessOptional optional v (.outOfBounds i)
    | some n => do
      match ← Outputs.first (f (items.getD n null)) with
      | some y => return array (items.set n y)
      | none => return array (items.eraseIdx n)
  | array _, _ => unlessOptional optional v (.notUsable i "integer")
  | _, _ => unlessOptional optional v (.notUsable v iterable)

/-- Puts the array that a function makes of a range in its place. -/
def changeSlice (optional : Bool) (lower upper : Option Datum) (f : Datum → Outputs) (v : Datum) :
    Result Datum :=
  match v with
  | array items =>
    match range lower upper items.length with
    | .error e => unlessOptional optional v e
    | .ok (start, count) => do
      let replacement ←
        match ← Outputs.first (f (array ((items.drop start).take count))) with
        | some (array new) => pure new
        | some other => throw (.notUsable other "array")
        | none => pure []
      return array (items.take start ++ replacement ++ items.drop (start + count))
  | _ => unlessOptional optional v (.notUsable v "array")

end Exemplar.Filter.Datum

namespace Exemplar.Filter

/-- One step into a value. -/
inductive Access where
  | each
  | index (i : Datum)
  | slice (lower upper : Option Datum)

namespace Access

def get (access : Access) (optional : Bool) (v : Datum) : Outputs :=
  let found :=
    match access with
    | each => v.parts
    | index i => .one (v.index i)
    | slice lower upper => .one (v.slice lower upper)
  if optional then found.filter (·.isOk) else found

def change (access : Access) (optional : Bool) (f : Datum → Outputs) (v : Datum) : Result Datum :=
  match access with
  | each => Datum.changeParts optional f v
  | index i => Datum.changeIndex optional i f v
  | slice lower upper => Datum.changeSlice optional lower upper f v

/-- What lies at the end of several steps. -/
def follow : List (Access × Bool) → Datum → Outputs
  | [], v => Outputs.value v
  | (access, optional) :: rest, v => Outputs.andThen (access.get optional v) (follow rest)

/-- The value with a change made at the end of several steps. -/
def changeAt (f : Datum → Outputs) : List (Access × Bool) → Datum → Result Datum
  | [], v => .ok v
  | [(access, optional)], v => access.change optional f v
  | (access, optional) :: rest, v => access.change optional (fun x => .one (changeAt f rest x)) v

end Access

end Exemplar.Filter
