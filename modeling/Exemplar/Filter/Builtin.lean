import Exemplar.Filter.Access
import Exemplar.Filter.Arithmetic
import Exemplar.Filter.Reading
import Exemplar.Unicode.WhiteSpace

/-! Filters on values that are not defined by other filters. Each takes the values of its arguments
and its input. -/
namespace Exemplar.Filter

structure Builtin where
  name : String
  arity : Nat
  run : List Datum → Datum → Result Datum

namespace Builtin
open Datum

def length (v : Datum) : Result Datum :=
  match v with
  | null => .ok (int 0)
  | .bool _ => .error (.failed (v.text ++ " has no length"))
  | int n => .ok (intOr n.natAbs (Float.ofInt n).abs)
  | float x => .ok (float x.abs)
  | numeral spelling => .ok (float (spelledFloat spelling).abs)
  | string text => .ok (int text.length)
  | array items => .ok (int items.length)
  | object members => .ok (int members.length)

/-- The keys of an object in its order, or the indexes of an array. -/
def keysUnsorted (v : Datum) : Result Datum :=
  match v with
  | array items => .ok (array ((List.range items.length).map fun (i : Nat) => int i))
  | object members => .ok (array (members.map fun m => string m.1))
  | _ => .error (.notUsable v iterable)

def sortList (items : List Datum) : List Datum :=
  items.mergeSort atMost

def keys (v : Datum) : Result Datum := do
  match ← keysUnsorted v with
  | array names => return array (sortList names)
  | other => return other

def has (v key : Datum) : Result Datum :=
  match v, key with
  | array items, int i =>
    if 0 ≤ i then .ok (Datum.bool (i < items.length)) else .error (.notIndexable v key)
  | object members, string name => .ok (.bool (Entries.get? members name).isSome)
  | _, _ => .error (.notIndexable v key)

def isInfix (part : List Char) : List Char → Bool
  | [] => part.isEmpty
  | c :: rest => part.isPrefixOf (c :: rest) || isInfix part rest

mutual
/-- Whether a value contains another: a text part of a text, items in items, members in members. -/
def contains (v : Datum) : Datum → Bool
  | string part =>
    match v with
    | string text => isInfix part.toList text.toList
    | _ => false
  | array parts =>
    match v with
    | array items => containsAll items parts
    | _ => false
  | object parts =>
    match v with
    | object members => containsMembers members parts
    | _ => false
  | other => v.equal other

def containsAll (items : List Datum) : List Datum → Bool
  | [] => true
  | part :: rest => items.any (contains · part) && containsAll items rest

def containsMembers (members : List (String × Datum)) : List (String × Datum) → Bool
  | [] => true
  | (key, part) :: rest =>
    (Entries.get? members key).any (contains · part) && containsMembers members rest
end

def ofArray (f : List Datum → Result Datum) (v : Datum) : Result Datum :=
  match v with
  | array items => f items
  | _ => .error (.notUsable v "array")

def ofText (f : String → Result Datum) (v : Datum) : Result Datum :=
  match v with
  | string text => f text
  | _ => .error (.notUsable v "string")

def ofFloat (f : Float → Float) (v : Datum) : Result Datum :=
  match v.float? with
  | some x => .ok (float (f x))
  | none => .error (.notUsable v "number")

/-- A whole float as an integer, if it has 64 bits. -/
def toInteger (x : Float) : Datum :=
  if x.isFinite && x.abs < 9.2e18 then int (if x < 0.0 then -(x.abs.toUInt64.toNat) else x.toUInt64.toNat)
  else float x

/-- Rounds a number that is not an integer already. -/
def rounded (f : Float → Float) (v : Datum) : Result Datum :=
  match v with
  | int n => .ok (int n)
  | _ =>
    match v.float? with
    | some x => .ok (toInteger (f x))
    | none => .error (.notUsable v "number")

def mapChars (f : Char → Char) : Datum → Result Datum :=
  ofText fun text => .ok (string (text.map f))

def toText (v : Datum) : String :=
  match v with
  | string text => text
  | other => other.text

/-- The value of JSON text. -/
def parse (text : String) : Result Datum :=
  match Reading.ofText text with
  | .ok v => .ok v
  | .error missing =>
    .error (.failed ("cannot parse " ++ text ++ " as JSON: " ++ missing.text ++ " expected"))

/-- A number itself, or the value of a text, whatever its kind. -/
def toNumber (v : Datum) : Result Datum :=
  match v with
  | int _ | float _ | numeral _ => .ok v
  | _ => ofText parse v

def characters (text : String) : Datum :=
  array (text.toList.map fun c => int c.toNat)

def fromCharacter (v : Datum) : Result Char :=
  match v with
  | int n =>
    if 0 ≤ n && n.toNat.isValidChar then .ok (Char.ofNat n.toNat)
    else .error (.failed ("cannot use " ++ v.text ++ " as character"))
  | _ => .error (.notUsable v "integer")

def trimmed (front back : Bool) (text : String) : String :=
  let chars := text.toList
  let chars := if front then chars.dropWhile Unicode.isBlank else chars
  let chars := if back then (chars.reverse.dropWhile Unicode.isBlank).reverse else chars
  String.ofList chars

def withTexts (f : String → String → Datum) (part v : Datum) : Result Datum :=
  match v, part with
  | string text, string part => .ok (f text part)
  | string _, _ => .error (.notUsable part "string")
  | _, _ => .error (.notUsable v "string")

def split (separator v : Datum) : Result Datum :=
  match v, separator with
  | string text, string separator => .ok (array ((splitText text separator).map string))
  | _, _ => .error (.failed "split input and separator must be strings")

/-- Takes a part away at one end, where it is there. -/
def stripped (f : List Char → List Char → Option (List Char)) (part v : Datum) : Result Datum :=
  match v, part with
  | string text, string part =>
    .ok (string (((f text.toList part.toList).map String.ofList).getD text))
  | _, _ => .ok v

def front? (text part : List Char) : Option (List Char) :=
  if part.isPrefixOf text then some (text.drop part.length) else none

def back? (text part : List Char) : Option (List Char) :=
  if part.isSuffixOf text then some (text.take (text.length - part.length)) else none

def nullary (name : String) (f : Datum → Result Datum) : Builtin :=
  ⟨name, 0, fun _ v => f v⟩

def unary (name : String) (f : Datum → Datum → Result Datum) : Builtin :=
  ⟨name, 1, fun arguments v => f (arguments.headD null) v⟩

def all : List Builtin :=
  [nullary "length" length,
    nullary "utf8bytelength" (ofText fun text => .ok (int text.utf8ByteSize)),
    nullary "keys" keys,
    nullary "keys_unsorted" keysUnsorted,
    nullary "type" fun v => .ok (string v.typeName),
    nullary "error" fun v => .error (.raised v),
    nullary "tojson" fun v => .ok (string v.text),
    nullary "fromjson" (ofText parse),
    nullary "tostring" fun v => .ok (string (toText v)),
    nullary "@text" fun v => .ok (string (toText v)),
    nullary "@json" fun v => .ok (string v.text),
    nullary "tonumber" toNumber,
    nullary "ascii_downcase" (mapChars Char.toLower),
    nullary "ascii_upcase" (mapChars Char.toUpper),
    nullary "explode" (ofText fun text => .ok (characters text)),
    nullary "implode" (ofArray fun items => do
      return string (String.ofList (← items.mapM fromCharacter))),
    nullary "trim" (ofText fun text => .ok (string (trimmed true true text))),
    nullary "ltrim" (ofText fun text => .ok (string (trimmed true false text))),
    nullary "rtrim" (ofText fun text => .ok (string (trimmed false true text))),
    nullary "reverse" (ofArray fun items => .ok (array items.reverse)),
    nullary "floor" (rounded Float.floor),
    nullary "ceil" (rounded Float.ceil),
    nullary "round" (rounded Float.round),
    nullary "sqrt" (ofFloat Float.sqrt),
    nullary "fabs" (ofFloat Float.abs),
    nullary "isnan" fun v => .ok (.bool (v.float?.any Float.isNaN)),
    nullary "isinfinite" fun v => .ok (.bool (v.float?.any Float.isInf)),
    unary "has" fun key v => has v key,
    unary "contains" fun part v => .ok (.bool (contains v part)),
    unary "split" split,
    unary "startswith" (withTexts fun text part => .bool (part.toList.isPrefixOf text.toList)),
    unary "endswith" (withTexts fun text part => .bool (part.toList.isSuffixOf text.toList)),
    unary "ltrimstr" (stripped front?),
    unary "rtrimstr" (stripped back?)]

def find? (name : String) (arity : Nat) : Option Builtin :=
  all.find? fun b => b.name == name && b.arity == arity

end Builtin

end Exemplar.Filter
