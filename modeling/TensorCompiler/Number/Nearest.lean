import TensorCompiler.Number.Float

/-!
# Nearest numbers

## Rounding to 53 bits

A positive quotient of natural numbers rounded to the nearest number with a 53-bit mantissa, a tie
going to the even one. Sums of digits are scaled in this arithmetic where a fraction of a unit is
read.
-/

namespace TensorCompiler.Number

/-- The number `mantissa * 2 ^ (-scale)`. -/
structure Rounded where
  mantissa : Nat
  scale : Int
deriving DecidableEq, Repr

/-- The natural number nearest to `num / den`, of two equally near the even one. -/
def nearestQuotient (num den : Nat) : Nat :=
  let q := num / den
  let r := num % den
  if 2 * r < den then q else if den < 2 * r then q + 1 else if q % 2 = 0 then q else q + 1

/-- A nearest number is at most half a unit away. -/
theorem nearestQuotient_near {num den : Nat} (pos : 0 < den) :
    2 * (nearestQuotient num den * den) ≤ 2 * num + den ∧
      2 * num ≤ 2 * (nearestQuotient num den * den) + den := by
  have whole := Nat.div_add_mod' num den
  have rest := Nat.mod_lt num pos
  have next : (num / den + 1) * den = num / den * den + den := Nat.succ_mul _ _
  unfold nearestQuotient
  dsimp only
  repeat' split
  all_goals
    try rw [next]
    omega

namespace Rounded

/-- The numerator of a quotient scaled by a power of two. -/
def scaledNum (num : Nat) (scale : Int) : Nat :=
  num * Nat.pow 2 scale.toNat

/-- The denominator of a quotient scaled by a power of two. -/
def scaledDen (den : Nat) (scale : Int) : Nat :=
  den * Nat.pow 2 (-scale).toNat

/-- The scale that gives the mantissa of a quotient 53 bits. -/
def scaleFor (num den : Nat) : Int :=
  let scale : Int := 52 - ((Nat.log2 num : Int) - Nat.log2 den)
  if scaledNum num scale / scaledDen den scale < Nat.pow 2 52 then scale + 1 else scale

/-- A quotient of positive numbers, rounded. -/
def ofQuotient (num den : Nat) : Rounded :=
  let scale := scaleFor num den
  ⟨nearestQuotient (scaledNum num scale) (scaledDen den scale), scale⟩

/-- The rounded product of two rounded numbers. -/
def mul (x y : Rounded) : Rounded :=
  let scale := x.scale + y.scale
  ofQuotient (x.mantissa * y.mantissa * Nat.pow 2 (-scale).toNat) (Nat.pow 2 scale.toNat)

/-- The rounded quotient of two rounded numbers, the second of which is positive. -/
def div (x y : Rounded) : Rounded :=
  let scale := x.scale - y.scale
  ofQuotient (x.mantissa * Nat.pow 2 (-scale).toNat) (y.mantissa * Nat.pow 2 scale.toNat)

/-- The whole part. -/
def floor (x : Rounded) : Nat :=
  x.mantissa * Nat.pow 2 (-x.scale).toNat / Nat.pow 2 x.scale.toNat

end Rounded
/-!
## Nearest floating-point numbers

The number of a binary format nearest to a decimal, of two equally near ones the even one. The
decimal is rounded once and exactly, so reading it in a narrow format does not pass through a wider
one. What is too large for a format reads as its infinity.
-/

/-- The power of two of the first binary digit of a positive quotient. -/
def leadingPower (num den : Nat) : Int :=
  let power : Int := (Nat.log2 num : Int) - Nat.log2 den
  if num * Nat.pow 2 (-power).toNat < den * Nat.pow 2 power.toNat then power - 1 else power

namespace BinaryFormat

/-- The bits of infinity. -/
def infinityBits (f : BinaryFormat) : Nat :=
  (Nat.pow 2 f.exponentBits - 1) * Nat.pow 2 f.fractionBits

/-- The bits of the number nearest to `num / den`. The unit of its mantissa is a power of two that
leaves the mantissa one bit more than the fraction has, but none below the least number. A mantissa
that is rounded up to the next power of two carries into the exponent. -/
def nearestBits (f : BinaryFormat) (num den : Nat) : Nat :=
  if num = 0 then 0
  else
    let unit := max f.leastPower (leadingPower num den - f.fractionBits)
    let mantissa := nearestQuotient (num * Nat.pow 2 (-unit).toNat) (den * Nat.pow 2 unit.toNat)
    min f.infinityBits ((unit - f.leastPower).toNat * Nat.pow 2 f.fractionBits + mantissa)

/-- The bits of the number nearest to `digits / 10 ^ places`, with a sign. -/
def decimalBits (f : BinaryFormat) (negative : Bool) (digits places : Nat) : Nat :=
  (if negative then Nat.pow 2 (f.fractionBits + f.exponentBits) else 0) +
    f.nearestBits digits (Nat.pow 10 places)

end BinaryFormat

/-- The single-precision number nearest to `digits / 10 ^ places`, with a sign. -/
def toFloat32 (negative : Bool) (digits places : Nat) : Float32 :=
  Float32.ofBits (UInt32.ofNat (binary32.decimalBits negative digits places))

/-- The double-precision number nearest to `digits / 10 ^ places`, with a sign. -/
def toFloat (negative : Bool) (digits places : Nat) : Float :=
  Float.ofBits (UInt64.ofNat (binary64.decimalBits negative digits places))

end TensorCompiler.Number
