import TensorCompiler.Text.Basic

/-!
# Texts of floating-point numbers

A finite number is written with its shortest decimal: positionally if the power of ten of the
first digit is at least -4 and below 6, else with an exponent of at least two digits.
-/

/-!
## Shortest decimals

The decimal with the fewest digits that reads back to a given binary floating-point number. A
finite positive number `m * 2 ^ q` is read back from every real that lies between the midpoints to
its two neighbours, the midpoints included if `m` is even. On the grid of decimals with `n` digits
the two neighbours of the number are tried for `n = 1, 2, …`: the first grid with a hit wins, of
two hits the nearer one, and of two equally near the even one.
-/

namespace TensorCompiler.Number

/-- A positive number `mantissa * 2 ^ exponent`. `closeBelow` marks the least number of a binade,
whose lower neighbour is half as far away as its upper one. -/
structure Dyadic where
  mantissa : Nat
  exponent : Int
  closeBelow : Bool
deriving DecidableEq, Repr

/-- A positive decimal: its digits as one number, without trailing zeros, and the power of ten of
its first digit. -/
structure Decimal where
  digits : Nat
  exponent : Int
deriving DecidableEq, Repr

/-- The number of decimal digits of a natural number. -/
def numDigits (n : Nat) : Nat :=
  (Nat.toDigits 10 n).length

namespace Shortest

/-- A rounding interval over the common denominator `den`. -/
structure Interval where
  low : Nat
  value : Nat
  high : Nat
  den : Nat
  closed : Bool

/-- The reals that read back to a number, in quarters of the unit of its mantissa. -/
def interval (x : Dyadic) : Interval :=
  let up := Nat.pow 2 (x.exponent - 2).toNat
  { low := (4 * x.mantissa - (if x.closeBelow then 1 else 2)) * up
    value := 4 * x.mantissa * up
    high := (4 * x.mantissa + 2) * up
    den := Nat.pow 2 (2 - x.exponent).toNat
    closed := x.mantissa % 2 == 0 }

/-- The least `k` up to a bound for which `num * 10 ^ k` reaches `den`. -/
def leadingZeros (num den : Nat) : Nat → Nat
  | 0 => 0
  | bound + 1 => if den ≤ num then 0 else leadingZeros (10 * num) den bound + 1

/-- The power of ten of the first digit of `num / den`. -/
def firstExponent (num den : Nat) : Int :=
  if den ≤ num then (numDigits (num / den) : Int) - 1
  else -(leadingZeros num den 400 : Int)

/-- The interval with both its numerators and its denominator scaled so that the decimals
`d * 10 ^ k` become the natural numbers `d`. -/
def Interval.scaled (i : Interval) (k : Int) : Interval :=
  let up := Nat.pow 10 (-k).toNat
  { i with
    low := i.low * up, value := i.value * up, high := i.high * up
    den := i.den * Nat.pow 10 k.toNat }

/-- Whether the grid point `d` lies in the interval. -/
def Interval.holds (i : Interval) (d : Nat) : Bool :=
  if i.closed then decide (i.low ≤ d * i.den) && decide (d * i.den ≤ i.high)
  else decide (i.low < d * i.den) && decide (d * i.den < i.high)

/-- The neighbour on the grid that the number is nearer to, an even one if it lies in the middle. -/
def Interval.nearest (i : Interval) (d : Nat) : Nat :=
  if 2 * i.value < (2 * d + 1) * i.den then d
  else if (2 * d + 1) * i.den < 2 * i.value then d + 1
  else if d % 2 = 0 then d else d + 1

/-- A neighbour of the number on the grid that reads back to it. -/
def Interval.pick? (i : Interval) : Option Nat :=
  let d := i.value / i.den
  match i.holds d, i.holds (d + 1) with
  | true, true => some (i.nearest d)
  | true, false => some d
  | false, true => some (d + 1)
  | false, false => none

/-- Removes trailing zeros. -/
def dropZeros : Nat → Nat → Nat
  | 0, d => d
  | bound + 1, d => if d ≠ 0 ∧ d % 10 = 0 then dropZeros bound (d / 10) else d

/-- The decimal `d * 10 ^ k`. -/
def decimal (d : Nat) (k : Int) : Decimal :=
  { digits := dropZeros 20 d, exponent := k + numDigits d - 1 }

/-- Tries the grids of `n`, `n + 1`, … digits, `bound` of them. -/
def search (i : Interval) (first : Int) : Nat → Nat → Decimal
  | 0, n =>
    let j := i.scaled (first - (n : Int) + 1)
    decimal (j.value / j.den) (first - (n : Int) + 1)
  | bound + 1, n =>
    let k := first - (n : Int) + 1
    match (i.scaled k).pick? with
    | some d => decimal d k
    | none => search i first bound (n + 1)

end Shortest

/-- The decimal with the fewest digits that reads back to the number, the nearest of those. -/
def Dyadic.shortest (x : Dyadic) : Decimal :=
  let i := Shortest.interval x
  Shortest.search i (Shortest.firstExponent i.value i.den) 17 1


/-! ## Formats -/

/-- The layout of a binary floating-point format: bits of the fraction and of the exponent. -/
structure BinaryFormat where
  fractionBits : Nat
  exponentBits : Nat

/-- Single precision. -/
def binary32 : BinaryFormat := ⟨23, 8⟩

/-- Double precision. -/
def binary64 : BinaryFormat := ⟨52, 11⟩

/-- What the bits of a floating-point number stand for. -/
inductive FloatClass where
  | notANumber
  | infinite (negative : Bool)
  | zero (negative : Bool)
  | finite (negative : Bool) (magnitude : Dyadic)
deriving DecidableEq, Repr

/-- The power of two that the least positive number of a format is. -/
def BinaryFormat.leastPower (f : BinaryFormat) : Int :=
  2 - Nat.pow 2 (f.exponentBits - 1) - f.fractionBits

/-- Reads the bits of a floating-point number. -/
def BinaryFormat.classify (f : BinaryFormat) (bits : Nat) : FloatClass :=
  let fraction := bits % Nat.pow 2 f.fractionBits
  let expo := bits / Nat.pow 2 f.fractionBits % Nat.pow 2 f.exponentBits
  let negative := bits / Nat.pow 2 (f.fractionBits + f.exponentBits) % 2 == 1
  if expo = Nat.pow 2 f.exponentBits - 1 then
    if fraction = 0 then .infinite negative else .notANumber
  else if expo = 0 then
    if fraction = 0 then .zero negative
    else .finite negative { mantissa := fraction, exponent := f.leastPower, closeBelow := false }
  else
    .finite negative
      { mantissa := Nat.pow 2 f.fractionBits + fraction, exponent := f.leastPower + expo - 1,
        closeBelow := fraction == 0 && decide (1 < expo) }

/-- Digits after the first one, behind a point if there are any. -/
def fractionText : List Char → List Char
  | [] => []
  | ds => '.' :: ds

/-- At least two digits. -/
def paddedExponent (n : Nat) : List Char :=
  if n < 10 then '0' :: Nat.toDigits 10 n else Nat.toDigits 10 n

/-- One digit, the others behind a point, and the power of ten with its sign. -/
def Decimal.scientific (d : Decimal) : List Char :=
  match Nat.toDigits 10 d.digits with
  | [] => []
  | c :: rest =>
    c :: fractionText rest ++ 'e' :: (if d.exponent < 0 then '-' else '+') ::
      paddedExponent d.exponent.natAbs

/-- The digits at their places, padded with zeros up to the point. -/
def Decimal.positional (d : Decimal) : List Char :=
  let ds := Nat.toDigits 10 d.digits
  if d.exponent < 0 then
    '0' :: '.' :: List.replicate (d.exponent.natAbs - 1) '0' ++ ds
  else
    let whole := d.exponent.toNat + 1
    ds.take whole ++ List.replicate (whole - ds.length) '0' ++ fractionText (ds.drop whole)

/-- Positional notation for exponents from -4 to 5. -/
def Decimal.text (d : Decimal) : List Char :=
  if d.exponent < -4 ∨ 6 ≤ d.exponent then d.scientific else d.positional

/-- The text of a number given by its bits. -/
def FloatClass.text : FloatClass → String
  | .notANumber => "NaN"
  | .infinite false => "+Inf"
  | .infinite true => "-Inf"
  | .zero false => "0"
  | .zero true => "-0"
  | .finite negative x =>
    String.ofList (if negative then '-' :: x.shortest.text else x.shortest.text)

/-- The text of a single-precision number. -/
def ofFloat32 (x : Float32) : String :=
  (binary32.classify x.toBits.toNat).text

/-- The text of a double-precision number. -/
def ofFloat (x : Float) : String :=
  (binary64.classify x.toBits.toNat).text

end TensorCompiler.Number
