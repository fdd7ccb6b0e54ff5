/-!
# Shortest digits of a binary number

A positive binary number `mantissa · 2 ^ exponent` stands for all real numbers
that round to it.  Of the decimal grids with one, two, … digits the first that
has a point in that interval is taken, and on it the nearer of the two
neighbours of the number.  Everything is computed in exact natural numbers.
-/

namespace SqlDialects.Number

structure DecimalDigits where
  digits : Nat
  exponent : Int
deriving DecidableEq, Repr

structure Ratio where
  numerator : Nat
  denominator : Nat
deriving DecidableEq, Repr

def Ratio.ofScaled (mantissa : Nat) (base : Nat) (exponent : Int) : Ratio :=
  if 0 ≤ exponent then ⟨mantissa * Nat.pow base exponent.toNat, 1⟩
  else ⟨mantissa, Nat.pow base (-exponent).toNat⟩

def Ratio.le (left right : Ratio) : Bool :=
  decide (left.numerator * right.denominator ≤ right.numerator * left.denominator)

def Ratio.lt (left right : Ratio) : Bool :=
  decide (left.numerator * right.denominator < right.numerator * left.denominator)

def leadingExponent (fuel : Nat) (value : Ratio) (candidate : Int) : Int :=
  match fuel with
  | 0 => candidate
  | fuel + 1 =>
    if (Ratio.ofScaled 1 10 (candidate + 1)).le value then
      leadingExponent fuel value (candidate + 1)
    else candidate

structure RoundingInterval where
  value : Ratio
  low : Ratio
  high : Ratio
  includesEnds : Bool

/-- `narrowBelow` says that the next smaller number is only half as far away. -/
def RoundingInterval.ofBinary (mantissa : Nat) (exponent : Int) (narrowBelow : Bool) :
    RoundingInterval where
  value := .ofScaled (4 * mantissa) 2 (exponent - 2)
  low := .ofScaled (4 * mantissa - if narrowBelow then 1 else 2) 2 (exponent - 2)
  high := .ofScaled (4 * mantissa + 2) 2 (exponent - 2)
  includesEnds := mantissa % 2 == 0

def RoundingInterval.contains (interval : RoundingInterval) (candidate : Ratio) : Bool :=
  if interval.includesEnds then interval.low.le candidate && candidate.le interval.high
  else interval.low.lt candidate && candidate.lt interval.high

/-- The neighbour of the value on the grid of multiples of `10 ^ exponent` that
lies in the interval; of two the nearer, and the even one if they are as near. -/
def RoundingInterval.gridPoint? (interval : RoundingInterval) (exponent : Int) :
    Option DecimalDigits :=
  let scaled : Ratio :=
    if 0 ≤ exponent then
      ⟨interval.value.numerator, interval.value.denominator * Nat.pow 10 exponent.toNat⟩
    else ⟨interval.value.numerator * Nat.pow 10 (-exponent).toNat, interval.value.denominator⟩
  let below := scaled.numerator / scaled.denominator
  let remainder := scaled.numerator % scaled.denominator
  let hasBelow := decide (0 < below) && interval.contains (.ofScaled below 10 exponent)
  let hasAbove := interval.contains (.ofScaled (below + 1) 10 exponent)
  let aboveIsNearer :=
    decide (scaled.denominator < 2 * remainder)
      || (decide (scaled.denominator = 2 * remainder) && below % 2 == 1)
  if hasBelow && !(hasAbove && aboveIsNearer) then some ⟨below, exponent⟩
  else if hasAbove then some ⟨below + 1, exponent⟩
  else none

def firstGridPoint (interval : RoundingInterval) (leading : Int) :
    (remaining places : Nat) → DecimalDigits
  | 0, places => (interval.gridPoint? (leading - places)).getD ⟨0, 0⟩
  | remaining + 1, places =>
    match interval.gridPoint? (leading - places) with
    | some point => point
    | none => firstGridPoint interval leading remaining (places + 1)

def dropTrailingZeros : (fuel : Nat) → DecimalDigits → DecimalDigits
  | 0, number => number
  | fuel + 1, number =>
    if number.digits ≠ 0 ∧ number.digits % 10 = 0 then
      dropTrailingZeros fuel ⟨number.digits / 10, number.exponent + 1⟩
    else number

def shortestDigits (mantissa : Nat) (exponent : Int) (narrowBelow : Bool) : DecimalDigits :=
  let interval := RoundingInterval.ofBinary mantissa exponent narrowBelow
  let bits := Nat.log2 mantissa
  -- Two less than the rounded logarithm is a lower bound, from which the search goes up.
  let estimate := ((bits : Int) + exponent) * 30103 / 100000 - 2
  let leading := leadingExponent 8 interval.value estimate
  dropTrailingZeros 20 (firstGridPoint interval leading 17 0)

end SqlDialects.Number
