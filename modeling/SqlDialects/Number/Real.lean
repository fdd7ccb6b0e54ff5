import SqlDialects.Number.Integer
import SqlDialects.Number.Shortest

/-!
# Binary real numbers

Reading and writing double precision numbers.  The text of a finite number has
the fewest digits that read back as the number; it is positional for decimal
exponents from -4 to 15 and always shows a point or an exponent.
-/

namespace SqlDialects.Number

/-! ## The parts of a number -/

/-- A finite number is `mantissa · 2 ^ exponent` up to its sign. -/
structure BinaryParts where
  negative : Bool
  mantissa : Nat
  exponent : Int
deriving DecidableEq, Repr

def binaryParts (number : Float) : BinaryParts :=
  let bits : Nat := number.toBits.toNat
  let fraction : Nat := bits % Nat.pow 2 52
  let biased : Nat := bits / Nat.pow 2 52 % 2048
  let negative := bits / Nat.pow 2 63 == 1
  if biased = 0 then ⟨negative, fraction, -1074⟩
  else ⟨negative, fraction + Nat.pow 2 52, (biased : Int) - 1075⟩

def truncated (number : Float) : Int :=
  let parts := binaryParts number
  let size :=
    if 0 ≤ parts.exponent then parts.mantissa * Nat.pow 2 parts.exponent.toNat
    else parts.mantissa / Nat.pow 2 (-parts.exponent).toNat
  if parts.negative then -(size : Int) else size

/-! ## Writing -/

structure RealFormat where
  leastPositional : Int
  greatestPositional : Int
  exponentMark : String
  exponentWidth : Nat
  infinity : String
  notANumber : String

def RealFormat.plain : RealFormat where
  leastPositional := -4
  greatestPositional := 15
  exponentMark := "e"
  exponentWidth := 2
  infinity := "inf"
  notANumber := "nan"

def zeros (count : Nat) : List Char :=
  List.replicate count '0'

def RealFormat.exponentText (format : RealFormat) (exponent : Int) : List Char :=
  let digits := Nat.toDigits 10 exponent.natAbs
  format.exponentMark.toList ++ (if exponent < 0 then '-' else '+')
    :: zeros (format.exponentWidth - digits.length) ++ digits

def RealFormat.decimalText (format : RealFormat) (number : DecimalDigits) : List Char :=
  let digits := Nat.toDigits 10 number.digits
  let leading := number.exponent + digits.length - 1
  if format.leastPositional ≤ leading ∧ leading ≤ format.greatestPositional then
    if leading < 0 then '0' :: '.' :: zeros (-leading - 1).toNat ++ digits
    else
      let whole := (leading + 1).toNat
      let padded := digits ++ zeros (whole - digits.length)
      let fraction := padded.drop whole
      padded.take whole ++ '.' :: (if fraction.isEmpty then ['0'] else fraction)
  else
    let mantissa :=
      match digits with
      | first :: second :: rest => first :: '.' :: second :: rest
      | few => few
    mantissa ++ format.exponentText leading

def RealFormat.text (format : RealFormat) (number : Float) : String :=
  if number.isNaN then format.notANumber
  else
    let parts := binaryParts number
    let sign := if parts.negative then "-" else ""
    if number.isInf then sign ++ format.infinity
    else if parts.mantissa = 0 then sign ++ "0.0"
    else
      let narrowBelow := parts.mantissa == Nat.pow 2 52 && decide (-1074 < parts.exponent)
      sign ++ String.ofList
        (format.decimalText (shortestDigits parts.mantissa parts.exponent narrowBelow))

def realText (number : Float) : String :=
  RealFormat.plain.text number

/-! ## Reading -/

structure DecimalNumeral where
  negative : Bool
  digits : Nat
  exponent : Int
deriving DecidableEq, Repr

def nearestReal (negative : Bool) (digits : Nat) (exponent : Int) : Float :=
  let places := (Nat.toDigits 10 digits).length
  -- Far exponents are settled first, so that no huge power is computed.
  let size : Float :=
    if digits = 0 ∨ exponent + places < -400 then 0.0
    else if 400 < exponent + places then 1.0 / 0.0
    else if 0 ≤ exponent then Float.ofScientific digits false exponent.toNat
    else Float.ofScientific digits true (-exponent).toNat
  if negative then -size else size

def underscoresSeparate : (previousIsDigit : Bool) → List Char → Bool
  | _, [] => true
  | previousIsDigit, '_' :: c :: rest =>
    previousIsDigit && (Text.asciiDigit? c).isSome && underscoresSeparate true rest
  | _, ['_'] => false
  | _, c :: rest => underscoresSeparate (Text.asciiDigit? c).isSome rest

def spanDigits (text : List Char) : List Char × List Char :=
  text.span fun c => (Text.asciiDigit? c).isSome

def digitsValue (digits : List Char) : Nat :=
  digits.foldl (fun value c => value * 10 + (c.toNat - 48)) 0

def exponentPart? : List Char → Option Int
  | [] => some 0
  | mark :: rest =>
    if mark == 'e' || mark == 'E' then
      let (negative, digits) := splitSign rest
      if digits.isEmpty || !digits.all fun c => (Text.asciiDigit? c).isSome then none
      else
        let size : Int := digitsValue digits
        some (if negative then -size else size)
    else none

def decimalNumeral? (text : List Char) : Option DecimalNumeral :=
  let (negative, unsigned) := splitSign text
  let (whole, afterWhole) := spanDigits unsigned
  let (fraction, tail) :=
    match afterWhole with
    | '.' :: rest => spanDigits rest
    | rest => ([], rest)
  if whole.isEmpty && fraction.isEmpty then none
  else
    (exponentPart? tail).map fun exponent =>
      ⟨negative, digitsValue (whole ++ fraction), exponent - fraction.length⟩

def lowerAscii (text : List Char) : List Char :=
  text.map Char.toLower

def readAsciiReal? (text : List Char) : Option Float :=
  let trimmed := Text.trimBy Text.isAsciiBlank text
  if !underscoresSeparate false trimmed then none
  else
    let body := trimmed.filter (· != '_')
    match decimalNumeral? body with
    | some numeral => some (nearestReal numeral.negative numeral.digits numeral.exponent)
    | none =>
      let (negative, name) := splitSign body
      let name := lowerAscii name
      if name = "inf".toList ∨ name = "infinity".toList then
        some (if negative then -(1.0 / 0.0) else 1.0 / 0.0)
      else if name = "nan".toList then some (0.0 / 0.0)
      else none

def readReal? (text : String) : Option Float :=
  readAsciiReal? (text.toList.map Text.plainNumeral)

def realOfInteger? (number : Int) : Option Float :=
  let real := nearestReal (decide (number < 0)) number.natAbs 0
  if real.isInf then none else some real

end SqlDialects.Number
