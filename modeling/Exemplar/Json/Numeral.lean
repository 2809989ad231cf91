import Exemplar.Json.Error
import Exemplar.Json.Value

/-! Numerals: an optional minus sign, a whole part without a leading zero, a fraction and an
exponent. Digits are gathered into one integer of 64 bits, those that no longer fit only move the
decimal point, and a float is that integer times or over one power of ten. -/
namespace Exemplar.Json.Numeral

/-- A failure after so many bytes of the numeral. -/
structure Failure where
  cause : Cause
  bytes : Nat

/-- Where a required digit is missing: at the end of the text, or at the character that stands in
its place. -/
def missingDigit (rest : List Char) (bytes : Nat) : Failure :=
  if rest.isEmpty then ⟨.endInValue, bytes⟩ else ⟨.invalidNumber, bytes + 1⟩

def digitValue (c : Char) : Nat :=
  c.toNat - '0'.toNat

/-- The number is `value · 10 ^ exponent`. -/
structure Decimal where
  value : Nat
  exponent : Int

def fits (n : Nat) : Bool :=
  n < Nat.pow 2 64

/-- Digits before the point. From the first that does not fit, each counts as a power of ten. -/
def wholePart (digits : List Char) : Decimal :=
  digits.foldl (fun d c =>
    let next := d.value * 10 + digitValue c
    if d.exponent = 0 && fits next then { d with value := next }
    else { d with exponent := d.exponent + 1 }) ⟨0, 0⟩

/-- Digits after the point. From the first that does not fit, they are left out. -/
def fractionPart (d : Decimal) : List Char → Decimal
  | [] => d
  | c :: rest =>
    let next := d.value * 10 + digitValue c
    if fits next then fractionPart ⟨next, d.exponent - 1⟩ rest else d

/-- The value of exponent digits, or the number of digits after which it leaves 32 bits. -/
def exponentPart (value read : Nat) : List Char → Except Nat Nat
  | [] => .ok value
  | c :: rest =>
    let next := value * 10 + digitValue c
    if next < Nat.pow 2 31 then exponentPart next (read + 1) rest else .error (read + 1)

def powerOfTen (n : Nat) : Float :=
  Float.ofScientific 1 false n

/-- Divides by the greatest power of ten that is a float, so often or until nothing is left. -/
def shrink : Nat → Float → Float
  | 0, x => x
  | times + 1, x => if x == 0.0 then x else shrink times (x / powerOfTen 308)

/-- Divides by a power of ten. -/
def scaleDown (x : Float) (n : Nat) : Float :=
  let times := (n - 1) / 308
  shrink times x / powerOfTen (n - 308 * times)

/-- The float nearest the integer, scaled; nothing if it is too large. -/
def Decimal.toFloat? (d : Decimal) : Option Float :=
  let x := d.value.toFloat
  if d.exponent < 0 then some (scaleDown x d.exponent.natAbs)
  else if d.exponent ≤ 308 then
    let y := x * powerOfTen d.exponent.toNat
    if y.isInf then none else some y
  else if d.value = 0 then some x
  else none

def signed (negative : Bool) (x : Float) : Number :=
  .real (if negative then -x else x)

/-- A numeral without fraction and exponent. -/
def ofWhole (negative : Bool) (d : Decimal) : Option Number :=
  if d.exponent = 0 then
    if !negative then some (.integer d.value)
    else if d.value = 0 || Nat.pow 2 63 < d.value then some (signed true d.value.toFloat)
    else some (.integer (-d.value))
  else d.toFloat?.map (signed negative)

/-- Reads the numeral at the head of a text and counts the characters it takes. The text starts with
a minus sign or a digit. -/
def read (text : List Char) : Except Failure (Number × Nat) := do
  let negative := text.head? == some '-'
  let sign := if negative then 1 else 0
  let body := text.drop sign
  let whole := body.takeWhile Char.isDigit
  if whole.isEmpty then throw (missingDigit body sign)
  if whole.head? == some '0' && whole.length != 1 then throw ⟨.invalidNumber, sign + 2⟩
  let used := sign + whole.length
  let inRange (bytes : Nat) (x : Option Number) : Except Failure (Number × Nat) :=
    match x with
    | some x => .ok (x, bytes)
    | none => .error ⟨.numberOutOfRange, bytes⟩
  let float (d : Decimal) : Option Number := d.toFloat?.map (signed negative)
  let exponent (d : Decimal) (used : Nat) (rest : List Char) : Except Failure (Number × Nat) := do
    let down := rest.head? == some '-'
    let signWidth := if down || rest.head? == some '+' then 1 else 0
    let used := used + 1 + signWidth
    let rest := rest.drop signWidth
    let digits := rest.takeWhile Char.isDigit
    if digits.isEmpty then throw (missingDigit rest used)
    match exponentPart 0 0 digits with
    | .ok e =>
      let shift : Int := if down then -e else e
      inRange (used + digits.length) (float { d with exponent := d.exponent + shift })
    | .error read =>
      if d.value != 0 && !down then throw ⟨.numberOutOfRange, used + read⟩
      return (signed negative 0.0, used + digits.length)
  match body.drop whole.length with
  | '.' :: rest =>
    let digits := rest.takeWhile Char.isDigit
    if digits.isEmpty then throw (missingDigit rest (used + 1))
    let used := used + 1 + digits.length
    let d := fractionPart (wholePart whole) digits
    match rest.drop digits.length with
    | 'e' :: rest => exponent d used rest
    | 'E' :: rest => exponent d used rest
    | _ => inRange used (float d)
  | 'e' :: rest => exponent (wholePart whole) used rest
  | 'E' :: rest => exponent (wholePart whole) used rest
  | _ => inRange used (ofWhole negative (wholePart whole))

end Exemplar.Json.Numeral
