import Exemplar.Filter.Fault

/-! Sums, differences, products and so on of values. Integers stay integers while they have 64 bits;
a quotient is always a float. -/
namespace Exemplar.Filter.Datum

/-- The exact result if it has 64 bits, else that of the floats. -/
def intOr (n : Int) (x : Float) : Datum :=
  if isWord n then int n else float x

mutual
/-- The members of the second object put into the first, objects under the same key merged. -/
def merge (members : List (String × Datum)) : List (String × Datum) → List (String × Datum)
  | [] => members
  | (key, v) :: rest =>
    merge (Entries.put members key (mergeValue (Entries.get? members key) v)) rest

def mergeValue (before : Option Datum) : Datum → Datum
  | object new =>
    match before with
    | some (object old) => object (merge old new)
    | _ => object new
  | v => v
end

/-- The pieces of a text between the occurrences of another, which is not empty. -/
def splitChars (separator : List Char) (piece : List Char) : Nat → List Char → List (List Char)
  | _, [] => [piece.reverse]
  | skip + 1, _ :: rest => splitChars separator piece skip rest
  | 0, c :: rest =>
    if separator.isPrefixOf (c :: rest) then
      piece.reverse :: splitChars separator [] (separator.length - 1) rest
    else splitChars separator (c :: piece) 0 rest

/-- An empty text has no pieces, and without a separator each character is one. -/
def splitText (text separator : String) : List String :=
  if text.isEmpty then []
  else if separator.isEmpty then text.toList.map fun c => String.ofList [c]
  else (splitChars separator.toList [] 0 text.toList).map String.ofList

/-- The remainder with the sign of the dividend. It is exact: both magnitudes are whole multiples of
one power of two, and so is the remainder. -/
def floatRemainder (x y : Float) : Float :=
  if x.isNaN || y.isNaN || x.isInf || y == 0.0 then 0.0 / 0.0
  else if y.isInf then x
  else
    let a := Decimal.Binary.ofBits x.toBits
    let b := Decimal.Binary.ofBits y.toBits
    let low := min a.exponent b.exponent
    let scaled (m : Decimal.Binary) : Nat := m.mantissa * Nat.pow 2 (m.exponent - low).toNat
    let r := (Float.ofNat (scaled a % scaled b)).scaleB low
    if x.toBits < 0x8000000000000000 then r else -r

def floatMath (op : MathOp) (x y : Float) : Float :=
  match op with
  | .add => x + y
  | .sub => x - y
  | .mul => x * y
  | .div => x / y
  | .rem => floatRemainder x y

/-- An operation on numbers. -/
def numberMath (op : MathOp) (l r : Datum) : Result Datum :=
  match l.float?, r.float? with
  | some x, some y =>
    let computed := floatMath op x y
    match op, l, r with
    | .add, int a, int b => .ok (intOr (a + b) computed)
    | .sub, int a, int b => .ok (intOr (a - b) computed)
    | .mul, int a, int b => .ok (intOr (a * b) computed)
    | .rem, int a, int b =>
      if b = 0 then .error (.notCalculable l op r) else .ok (int (Int.tmod a b))
    | _, _, _ => .ok (float computed)
  | _, _ => .error (.notCalculable l op r)

/-- The float that a numeral stands for, in place of it. -/
def computed : Datum → Datum
  | numeral spelling => float (spelledFloat spelling)
  | v => v

/-- Texts and arrays are joined, objects merged; the difference of arrays leaves out the items of the
second, a text times a number is repeated, a text over a text is split. -/
def computedMath (op : MathOp) (l r : Datum) : Result Datum :=
  match op, l, r with
  | .add, string a, string b => .ok (string (a ++ b))
  | .add, array a, array b => .ok (array (a ++ b))
  | .add, object a, object b => .ok (object (b.foldl (fun members m => Entries.put members m.1 m.2) a))
  | .sub, array a, array b => .ok (array (a.filter fun x => !b.any x.equal))
  | .mul, string a, int n =>
    .ok (if 0 < n then string (String.join (List.replicate n.toNat a)) else null)
  | .mul, int n, string a =>
    .ok (if 0 < n then string (String.join (List.replicate n.toNat a)) else null)
  | .mul, object a, object b => .ok (object (merge a b))
  | .div, string a, string b => .ok (array ((splitText a b).map string))
  | _, _, _ => numberMath op l r

/-- Null adds nothing, and a numeral keeps its spelling where nothing else is added. -/
def math (op : MathOp) (l r : Datum) : Result Datum :=
  match op, l, r with
  | .add, null, x => .ok x
  | .add, x, null => .ok x
  | _, _, _ => computedMath op l.computed r.computed

/-- The number with the other sign. -/
def negate : Datum → Result Datum
  | int n => .ok (intOr (-n) (-Float.ofInt n))
  | float x => .ok (float (-x))
  | numeral spelling => .ok (float (-spelledFloat spelling))
  | v => .error (.notUsable v "number")

end Exemplar.Filter.Datum
