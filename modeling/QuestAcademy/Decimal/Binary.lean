import QuestAcademy.Decimal.Digits

/-!
Double-precision numbers as a whole number times a power of two, and the two ways in which decimal
text becomes such a number: rounding the exact value once, and scaling a 64-bit significand by a
power of ten. All rounding is to the nearest number, ties to the even one.
-/

namespace QuestAcademy.Decimal

def roundedQuotient (numerator denominator : Nat) : Nat :=
  let quotient := numerator / denominator
  let twice := 2 * (numerator % denominator)
  if twice < denominator then quotient
  else if denominator < twice then quotient + 1
  else quotient + quotient % 2

/-- A finite double without its sign: `significand * 2 ^ exponent`. -/
structure Magnitude where
  significand : Nat
  exponent : Int
  deriving DecidableEq

/-- Splits the bits of a finite double below its sign bit. The smallest exponent field holds the
numbers without a leading one. -/
def Magnitude.ofBits (bits : Nat) : Magnitude :=
  let field : Nat := bits / twoTo 52 % twoTo 11
  let fraction : Nat := bits % twoTo 52
  if field = 0 then ⟨fraction, -1074⟩ else ⟨fraction + twoTo 52, (field : Int) - 1075⟩

def magnitude (x : Float) : Magnitude :=
  Magnitude.ofBits x.toBits.toNat

def isNegative (x : Float) : Bool :=
  x.toBits.toNat / twoTo 63 = 1

/-- The bits of the double nearest to a positive quotient. A significand that rounds up to `2 ^ 53`
carries into the exponent field by itself. -/
def nearestBits (numerator denominator : Nat) : Nat :=
  let guess : Int := (numerator.log2 : Int) - denominator.log2 - 52
  let scaled (e : Int) : Nat × Nat :=
    if e < 0 then (numerator * twoTo e.natAbs, denominator)
    else (numerator, denominator * twoTo e.natAbs)
  let tight := if (scaled guess).1 / (scaled guess).2 < twoTo 52 then guess - 1 else guess
  let exponent := max tight (-1074)
  let significand := roundedQuotient (scaled exponent).1 (scaled exponent).2
  min ((exponent + 1074).natAbs * twoTo 52 + significand) (2047 * twoTo 52)

/-- The double nearest to `significand * 10 ^ exponent`; infinite when that is too large. Exponents
far outside the range of doubles are settled without writing the power out. -/
def nearest (significand : Nat) (exponent : Int) : Float :=
  if significand = 0 then 0
  else
    let top := (significand.log2 : Int) + exponent * 4
    if 400 * 4 < exponent * 3 ∧ 0 < exponent then Float.ofBits (2047 * twoTo 52 : Nat).toUInt64
    else if top < -2000 ∧ (significand.log2 : Int) + exponent * 3 < -1200 then 0
    else if 0 ≤ exponent then
      Float.ofBits (nearestBits (significand * tenTo exponent.natAbs) 1).toUInt64
    else Float.ofBits (nearestBits significand (tenTo exponent.natAbs)).toUInt64

def powerOfTen (exponent : Nat) : Float :=
  nearest 1 exponent

def ofNat (n : Nat) : Float :=
  n.toUInt64.toFloat

def ofInt (i : Int) : Float :=
  if i < 0 then -(ofNat i.natAbs) else ofNat i.natAbs

/-- A significand below `2 ^ 64` scaled by one power of ten after the other, each step rounded;
`none` when the result is infinite. Two divisions by `10 ^ 308` leave nothing of any significand. -/
def scaled? (significand : Nat) (exponent : Int) : Option Float :=
  let start := ofNat significand
  if 0 ≤ exponent then
    if 308 < exponent then if significand = 0 then some 0 else none
    else
      let result := start * powerOfTen exponent.natAbs
      if result.isFinite then some result else none
  else if -308 ≤ exponent then some (start / powerOfTen exponent.natAbs)
  else
    let smaller := start / powerOfTen 308
    if -616 ≤ exponent then some (smaller / powerOfTen (exponent + 308).natAbs) else some 0

end QuestAcademy.Decimal
