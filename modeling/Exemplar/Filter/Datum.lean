import Exemplar.Decimal.Shortest
import Exemplar.Dict
import Exemplar.Json.Document
import Exemplar.Json.Printer

/-! The values filters work on. A number is a 64-bit integer, a float, or a numeral that keeps the
spelling it was read with until something is computed from it. -/
namespace Exemplar.Filter

inductive Datum where
  | null
  | bool (b : Bool)
  | int (n : Int)
  | float (x : Float)
  | numeral (spelling : String)
  | string (text : String)
  | array (items : List Datum)
  | object (members : List (String × Datum))
  deriving Inhabited

/-- Whether an integer has 64 bits. -/
def isWord (n : Int) : Bool :=
  -(Nat.pow 2 63 : Int) ≤ n && n < (Nat.pow 2 63 : Int)

/-- The float a numeral stands for. -/
def spelledFloat (spelling : String) : Float :=
  let text := spelling.toList
  let negative := text.head? == some '-'
  let text := if negative then text.drop 1 else text
  let whole := text.takeWhile Char.isDigit
  let rest := text.drop whole.length
  let fraction :=
    match rest with
    | '.' :: more => more.takeWhile Char.isDigit
    | _ => []
  let rest :=
    match rest with
    | '.' :: more => more.drop fraction.length
    | _ => rest
  let value (digits : List Char) : Nat :=
    digits.foldl (fun n c => n * 10 + (c.toNat - '0'.toNat)) 0
  let exponent : Int :=
    match rest with
    | _ :: '-' :: digits => -(value digits : Int)
    | _ :: '+' :: digits => value digits
    | _ :: digits => value digits
    | [] => 0
  let mantissa := value (whole ++ fraction)
  let exponent := exponent - fraction.length
  let digits := (whole ++ fraction).length
  let x :=
    if mantissa = 0 || exponent + digits < -400 then 0.0
    else if 400 < exponent then 1.0 / 0.0
    else Float.ofScientific mantissa (exponent < 0) exponent.natAbs
  if negative then -x else x

namespace Datum

/-- A number by its spelling. -/
def ofSpelling (spelling : String) : Datum :=
  match spelling.toInt? with
  | some n => if isWord n then int n else numeral spelling
  | none => numeral spelling

def ofNumber : Json.Number → Datum
  | .integer n => if isWord n then int n else numeral (toString n)
  | .real x => numeral (Json.Number.style.write x)

mutual
def ofJson : Json.Value → Datum
  | .null => null
  | .bool b => bool b
  | .number n => ofNumber n
  | .string text => string text
  | .array items => array (ofJsonItems items)
  | .object members => object (ofJsonMembers members)

def ofJsonItems : List Json.Value → List Datum
  | [] => []
  | v :: rest => ofJson v :: ofJsonItems rest

def ofJsonMembers : List (String × Json.Value) → List (String × Datum)
  | [] => []
  | (k, v) :: rest => (k, ofJson v) :: ofJsonMembers rest
end

/-- Computed floats from `1e-4` up to `1e16` have a decimal point and no exponent. -/
def style : Decimal.Style := ⟨-4, 15, false⟩

/-- Escapes a character of a string. Only three control characters have a short form. -/
def escapeChar (c : Char) : List Char :=
  match c with
  | '\x08' => "\\u0008".toList
  | '\x0c' => "\\u000c".toList
  | c => Json.escapeChar c

def quote (text : String) : String :=
  String.ofList ('"' :: text.toList.flatMap escapeChar ++ ['"'])

mutual
/-- The value as JSON text. Floats that are no numbers are written as null. -/
def text : Datum → String
  | null => "null"
  | bool b => if b then "true" else "false"
  | int n => toString n
  | float x => if x.isFinite then style.write x else "null"
  | numeral spelling => spelling
  | string s => quote s
  | array items => "[" ++ ",".intercalate (itemTexts items) ++ "]"
  | object members => "\x7b" ++ ",".intercalate (memberTexts members) ++ "\x7d"

def itemTexts : List Datum → List String
  | [] => []
  | v :: rest => text v :: itemTexts rest

def memberTexts : List (String × Datum) → List String
  | [] => []
  | (k, v) :: rest => (quote k ++ ":" ++ text v) :: memberTexts rest
end

/-- Everything but null and false. -/
def isTrue : Datum → Bool
  | null => false
  | bool b => b
  | _ => true

def typeName : Datum → String
  | null => "null"
  | bool _ => "boolean"
  | int _ | float _ | numeral _ => "number"
  | string _ => "string"
  | array _ => "array"
  | object _ => "object"

/-- The number as a float. -/
def float? : Datum → Option Float
  | int n => some (Float.ofInt n)
  | float x => some x
  | numeral spelling => some (spelledFloat spelling)
  | _ => none

/-- Zeros are equal whatever their sign, and a float that is no number comes before all others,
itself included. -/
def compareFloats (x y : Float) : Ordering :=
  if x == 0.0 && y == 0.0 then .eq
  else if x.isNaN then .lt
  else if y.isNaN then .gt
  else if x < y then .lt
  else if x == y then .eq
  else .gt

mutual
/-- The value with the members of every object in the order of their keys. -/
def sorted : Datum → Datum
  | array items => array (sortedItems items)
  | object members => object ((sortedMembers members).mergeSort fun a b => a.1 ≤ b.1)
  | v => v

def sortedItems : List Datum → List Datum
  | [] => []
  | v :: rest => sorted v :: sortedItems rest

def sortedMembers : List (String × Datum) → List (String × Datum)
  | [] => []
  | (k, v) :: rest => (k, sorted v) :: sortedMembers rest
end

def rank : Datum → Nat
  | null => 0
  | bool _ => 1
  | int _ | float _ | numeral _ => 2
  | string _ => 3
  | array _ => 4
  | object _ => 5

def compareKeys : List String → List String → Ordering
  | [], [] => .eq
  | [], _ => .lt
  | _, [] => .gt
  | a :: as, b :: bs => (compare a b).then (compareKeys as bs)

mutual
/-- The order of values with sorted members: by kind, then by content. -/
def compareSorted : Datum → Datum → Ordering
  | bool a, bool b => compare a.toNat b.toNat
  | int a, int b => compare a b
  | string a, string b => compare a b
  | array a, array b => compareItems a b
  | object a, object b =>
    if a.isEmpty || b.isEmpty then compare a.length b.length
    else
      (compareKeys (Entries.keys a) (Entries.keys b)).then (compareMembers a b)
  | a, b =>
    match a.float?, b.float? with
    | some x, some y => compareFloats x y
    | _, _ => compare a.rank b.rank

def compareItems : List Datum → List Datum → Ordering
  | [], [] => .eq
  | [], _ => .lt
  | _, [] => .gt
  | a :: as, b :: bs => (compareSorted a b).then (compareItems as bs)

/-- The keys of objects, once they are known to be the same, leave it to the values. -/
def compareMembers : List (String × Datum) → List (String × Datum) → Ordering
  | [], [] => .eq
  | [], _ => .lt
  | _, [] => .gt
  | (_, a) :: as, (_, b) :: bs => (compareSorted a b).then (compareMembers as bs)
end

def order (a b : Datum) : Ordering :=
  compareSorted a.sorted b.sorted

def equal (a b : Datum) : Bool :=
  order a b == .eq

def atMost (a b : Datum) : Bool :=
  order a b != .gt

end Datum

end Exemplar.Filter
