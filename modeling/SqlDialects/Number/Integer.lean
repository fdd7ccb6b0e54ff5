import SqlDialects.Text.Quoted

/-!
# Integer numerals

Reading and writing integers.  A numeral may stand between blanks, may carry a
sign, may use the digits of any script, and may separate digits by single
underscores.  In a base other than ten it may start with the mark of the base,
such as `0x`.
-/

namespace SqlDialects.Number

/-- Decimal numerals of more digits are neither read nor written. -/
def maxDigits : Nat := 4300

inductive IntegerFault where
  | malformed
  | tooManyDigits (count : Nat)
deriving DecidableEq, Repr

/-! ## Reading -/

def hexDigit? (c : Char) : Option Nat :=
  if decide ('0' ≤ c) && decide (c ≤ '9') then some (c.toNat - 48)
  else if decide ('a' ≤ c) && decide (c ≤ 'f') then some (c.toNat - 87)
  else if decide ('A' ≤ c) && decide (c ≤ 'F') then some (c.toNat - 55)
  else none

inductive Base where
  | two
  | eight
  | ten
  | sixteen
deriving DecidableEq, Repr

def Base.size : Base → Nat
  | .two => 2
  | .eight => 8
  | .ten => 10
  | .sixteen => 16

def Base.digit? (base : Base) (c : Char) : Option Nat :=
  match base with
  | .ten => Text.asciiDigit? c
  | .sixteen => hexDigit? c
  | _ => (Text.asciiDigit? c).filter fun digit => decide (digit < base.size)

def Base.mark? : Base → Option Char
  | .two => some 'b'
  | .eight => some 'o'
  | .ten => none
  | .sixteen => some 'x'

/-- Reads the digits of a numeral after at least one digit.  The result is the
value, the number of digits and the unread rest; an underscore has to stand
between two digits. -/
def digitsFrom (base : Base) : (value count : Nat) → List Char → Option (Nat × Nat × List Char)
  | value, count, [] => some (value, count, [])
  | value, count, '_' :: c :: rest =>
    match base.digit? c with
    | some digit => digitsFrom base (value * base.size + digit) (count + 1) rest
    | none => none
  | _, _, ['_'] => none
  | value, count, c :: rest =>
    match base.digit? c with
    | some digit => digitsFrom base (value * base.size + digit) (count + 1) rest
    | none => some (value, count, c :: rest)

def digits? (base : Base) : List Char → Option (Nat × Nat × List Char)
  | [] => none
  | c :: rest =>
    match base.digit? c with
    | some digit => digitsFrom base digit 1 rest
    | none => none

def splitSign : List Char → Bool × List Char
  | '-' :: rest => (true, rest)
  | '+' :: rest => (false, rest)
  | rest => (false, rest)

def dropBaseMark (base : Base) : List Char → List Char
  | '0' :: mark :: rest =>
    if base.mark? = some mark.toLower then
      match rest with
      | '_' :: rest => rest
      | rest => rest
    else '0' :: mark :: rest
  | text => text

def readAscii (base : Base) (text : List Char) : Except IntegerFault Int :=
  let (negative, unsigned) := splitSign (Text.trimStartBy Text.isAsciiBlank text)
  match digits? base (dropBaseMark base unsigned) with
  | none => .error .malformed
  | some (value, count, rest) =>
    if base = .ten ∧ maxDigits < count then .error (.tooManyDigits count)
    else if rest.all Text.isAsciiBlank then .ok (if negative then -(value : Int) else value)
    else .error .malformed

def readInteger (base : Base) (text : String) : Except IntegerFault Int :=
  readAscii base (text.toList.map Text.plainNumeral)

/-! ## Writing -/

def natText (number : Nat) : String :=
  String.ofList (Nat.toDigits 10 number)

def integerText (number : Int) : String :=
  if number < 0 then "-" ++ natText number.natAbs else natText number.natAbs

def groupedText (number : Nat) : String :=
  String.ofList (group (Nat.toDigits 10 number).reverse).reverse
where
  group : List Char → List Char
    | a :: b :: c :: d :: rest => a :: b :: c :: ',' :: group (d :: rest)
    | few => few

/-! ## Messages -/

def digitLimitMessage : String :=
  "Exceeds the limit (4300 digits) for integer string conversion"

def digitLimitAdvice : String :=
  "; use sys.set_int_max_str_digits() to increase the limit"

def IntegerFault.message (fault : IntegerFault) (base : Base) (shown : String) : String :=
  match fault with
  | .malformed =>
    "invalid literal for int() with base " ++ natText base.size ++ ": "
      ++ String.ofList (shown.toList.take 200)
  | .tooManyDigits count =>
    digitLimitMessage ++ ": value has " ++ natText count ++ " digits" ++ digitLimitAdvice

def unwritableMessage : String :=
  digitLimitMessage ++ digitLimitAdvice

def isWritable (number : Int) : Bool :=
  decide (number.natAbs < Nat.pow 10 maxDigits)

end SqlDialects.Number
