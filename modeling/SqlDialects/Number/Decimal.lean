import SqlDialects.Number.Real

/-!
# Decimal numbers

Exact decimal numbers, which keep their sign, their digits and their exponent.
The text of a number is positional as long as its exponent is not positive and
it starts at most six places after the point.
-/

namespace SqlDialects

/-- A decimal number is finite, infinite or no number at all; the last may carry
a diagnostic payload. -/
inductive Decimal where
  | finite (negative : Bool) (coefficient : Nat) (exponent : Int)
  | infinity (negative : Bool)
  | notANumber (negative signaling : Bool) (payload : Nat)
deriving DecidableEq, Repr, Inhabited

namespace Decimal

open Number

/-! ## Writing -/

def signText (negative : Bool) : List Char :=
  if negative then ['-'] else []

def finiteText (coefficient : Nat) (exponent : Int) : List Char :=
  let digits := Nat.toDigits 10 coefficient
  let leading := exponent + digits.length
  let pointPlace : Int := if exponent ≤ 0 ∧ -6 < leading then leading else 1
  let body :=
    if pointPlace ≤ 0 then '0' :: '.' :: zeros (-pointPlace).toNat ++ digits
    else if (digits.length : Int) ≤ pointPlace then
      digits ++ zeros (pointPlace - digits.length).toNat
    else digits.take pointPlace.toNat ++ '.' :: digits.drop pointPlace.toNat
  let tail :=
    if leading = pointPlace then []
    else
      let shift := leading - pointPlace
      'E' :: (if shift < 0 then '-' else '+') :: Nat.toDigits 10 shift.natAbs
  body ++ tail

def toChars : Decimal → List Char
  | finite negative coefficient exponent => signText negative ++ finiteText coefficient exponent
  | infinity negative => signText negative ++ "Infinity".toList
  | notANumber negative signaling payload =>
    signText negative ++ (if signaling then "sNaN" else "NaN").toList
      ++ if payload = 0 then [] else Nat.toDigits 10 payload

def toText (number : Decimal) : String :=
  String.ofList number.toChars

/-! ## Reading -/

def greatestExponent : Int := 999999999999999999

def leastExponent : Int := -1999999999999999997

inductive Fault where
  | malformed
  | outOfRange
deriving DecidableEq, Repr

def fits (coefficient : Nat) (exponent : Int) : Bool :=
  let leading :=
    if coefficient = 0 then exponent
    else exponent + (Nat.toDigits 10 coefficient).length - 1
  decide (leading ≤ greatestExponent) && decide (leastExponent ≤ exponent)

def special? (text : List Char) : Option Decimal :=
  let (negative, name) := splitSign text
  let lowered := lowerAscii name
  let payload? (digits : List Char) : Option Nat :=
    if digits.all fun c => (Text.asciiDigit? c).isSome then some (digitsValue digits) else none
  if lowered = "inf".toList ∨ lowered = "infinity".toList then some (infinity negative)
  else match lowered with
    | 'n' :: 'a' :: 'n' :: digits => (payload? digits).map (notANumber negative false)
    | 's' :: 'n' :: 'a' :: 'n' :: digits => (payload? digits).map (notANumber negative true)
    | _ => none

/-- Reads a decimal number: blanks at the ends and all underscores are dropped. -/
def read (text : String) : Except Fault Decimal :=
  let body := ((Text.trimBy Text.isBlank text.toList).filter (· != '_')).map Text.plainNumeral
  match decimalNumeral? body with
  | some numeral =>
    if fits numeral.digits numeral.exponent then
      .ok (finite numeral.negative numeral.digits numeral.exponent)
    else .error .outOfRange
  | none =>
    match special? body with
    | some number => .ok number
    | none => .error .malformed

def Fault.message : Fault → String
  | .malformed => "[<class 'decimal.ConversionSyntax'>]"
  | .outOfRange => "[<class 'decimal.InvalidOperation'>]"

/-! ## Other views -/

def isFinite : Decimal → Bool
  | finite .. => true
  | _ => false

def isZero : Decimal → Bool
  | finite _ coefficient _ => coefficient == 0
  | _ => false

def truncatedInteger? : Decimal → Option Int
  | finite negative coefficient exponent =>
    let size :=
      if 0 ≤ exponent then coefficient * Nat.pow 10 exponent.toNat
      else if (Nat.toDigits 10 coefficient).length < (-exponent).toNat then 0
      else coefficient / Nat.pow 10 (-exponent).toNat
    some (if negative then -(size : Int) else size)
  | _ => none

def hasFraction : Decimal → Bool
  | finite _ coefficient exponent =>
    if 0 ≤ exponent ∨ coefficient = 0 then false
    else if (Nat.toDigits 10 coefficient).length < (-exponent).toNat then true
    else coefficient % Nat.pow 10 (-exponent).toNat != 0
  | _ => false

end Decimal

end SqlDialects
