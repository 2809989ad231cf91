/-! The shortest decimal that reads back as a given binary64 float.

A float `m · 2 ^ q` is the nearest float to every real of an interval around it. Among the decimals
in that interval the one with the fewest digits is taken, and of several with that many digits the
one nearest the float. On the grid of `k`-digit decimals only the two neighbours of the float have
to be tried: if any point of the grid lies in the interval, one of them does. -/
namespace Exemplar.Decimal

/-- A float of positive magnitude `mantissa · 2 ^ exponent`. `narrow` says that the float below is
only half as far away as the float above. -/
structure Binary where
  mantissa : Nat
  exponent : Int
  narrow : Bool

/-- The magnitude held in the bits of a float. -/
def Binary.ofBits (bits : UInt64) : Binary :=
  let fraction := bits.toNat % Nat.pow 2 52
  let field : Nat := bits.toNat / Nat.pow 2 52 % Nat.pow 2 11
  if field = 0 then ⟨fraction, -1074, false⟩
  else ⟨Nat.pow 2 52 + fraction, (field : Int) - 1075, fraction == 0 && field != 1⟩

/-- The reals that read as a float, over a common denominator. -/
structure Interval where
  low : Nat
  centre : Nat
  high : Nat
  denominator : Nat
  closed : Bool

/-- The ends lie half-way to the neighbouring floats and belong to the even mantissa. -/
def Binary.interval (b : Binary) : Interval :=
  let scale := Nat.pow 2 (b.exponent - 2).toNat
  { low := (4 * b.mantissa - (if b.narrow then 1 else 2)) * scale
    centre := 4 * b.mantissa * scale
    high := (4 * b.mantissa + 2) * scale
    denominator := Nat.pow 2 (2 - b.exponent).toNat
    closed := b.mantissa % 2 == 0 }

/-- The same reals measured in units of `10 ^ unit`. -/
def Interval.inUnits (i : Interval) (unit : Int) : Interval :=
  let up := Nat.pow 10 (-unit).toNat
  { i with
    low := i.low * up
    centre := i.centre * up
    high := i.high * up
    denominator := i.denominator * Nat.pow 10 unit.toNat }

def Interval.contains (i : Interval) (n : Nat) : Bool :=
  let x := n * i.denominator
  if i.closed then i.low ≤ x && x ≤ i.high else i.low < x && x < i.high

/-- The whole number in the interval that is nearest its centre; of two equally near the even one. -/
def Interval.nearest? (i : Interval) : Option Nat :=
  let below := i.centre / i.denominator
  let above := below + 1
  let down := i.centre - below * i.denominator
  let up := above * i.denominator - i.centre
  match i.contains below, i.contains above with
  | true, true => if down < up || (down == up && below % 2 == 0) then some below else some above
  | true, false => some below
  | false, true => some above
  | false, false => none

def digitCount (n : Nat) : Nat :=
  (Nat.toDigits 10 n).length

/-- The exponent of the leading digit of a positive fraction. -/
def leadingExponent (numerator denominator : Nat) : Int :=
  if denominator ≤ numerator then digitCount (numerator / denominator) - 1
  else
    let zeros := digitCount (denominator / numerator)
    if denominator ≤ numerator * Nat.pow 10 (zeros - 1) then 1 - (zeros : Int) else -(zeros : Int)

/-- Decimal digits without a trailing zero; `exponent` belongs to the first of them. -/
structure Digits where
  digits : List Char
  exponent : Int

def Digits.ofGrid (n : Nat) (unit : Int) : Digits :=
  let digits := Nat.toDigits 10 n
  { digits := (digits.reverse.dropWhile (· == '0')).reverse
    exponent := digits.length - 1 + unit }

/-- Seventeen digits tell any two floats apart, so one of the grids up to there has a point in the
interval. -/
def Binary.shortest (b : Binary) : Digits :=
  let interval := b.interval
  let leading := leadingExponent interval.centre interval.denominator
  let onGrid (k : Nat) : Option Digits :=
    let unit := leading - k
    (interval.inUnits unit).nearest?.map (Digits.ofGrid · unit)
  ((List.range 17).findSome? onGrid).getD ⟨['0'], 0⟩

/-- How a decimal is written. Exponents of the leading digit from `least` to `greatest` are written
in positional form, the others after an `e`. -/
structure Style where
  least : Int
  greatest : Int
  /-- A positive exponent has a sign. -/
  plusSign : Bool

def Style.positional (d : Digits) : List Char :=
  if d.exponent < 0 then
    '0' :: '.' :: List.replicate (-d.exponent - 1).toNat '0' ++ d.digits
  else
    let whole := d.exponent.toNat + 1
    let fraction := d.digits.drop whole
    d.digits.take whole ++ List.replicate (whole - d.digits.length) '0' ++
      '.' :: (if fraction.isEmpty then ['0'] else fraction)

def Style.scientific (style : Style) (d : Digits) : List Char :=
  let fraction := d.digits.drop 1
  d.digits.take 1 ++ (if fraction.isEmpty then [] else '.' :: fraction) ++
    'e' :: (if d.exponent < 0 then ['-'] else if style.plusSign then ['+'] else []) ++
    Nat.toDigits 10 d.exponent.natAbs

/-- The text of a finite float. -/
def Style.write (style : Style) (x : Float) : String :=
  let bits := x.toBits
  let binary := Binary.ofBits bits
  let sign := if bits.toNat ≥ Nat.pow 2 63 then ['-'] else []
  let body :=
    if binary.mantissa = 0 then ['0', '.', '0']
    else
      let d := binary.shortest
      if style.least ≤ d.exponent && d.exponent ≤ style.greatest then Style.positional d
      else style.scientific d
  String.ofList (sign ++ body)

end Exemplar.Decimal
