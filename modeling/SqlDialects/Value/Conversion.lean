import SqlDialects.Value.Shown
import SqlDialects.Calendar.Iso8601

/-!
# Conversions between kinds of values

Reading a value as an integer, a real number, a decimal number, a truth value,
a point in time, an identifier or bytes, with the causes for which that fails.
-/

namespace SqlDialects

open Number

inductive ConversionError where
  | unwritableInteger
  | integerNumeral (fault : IntegerFault) (shown : String)
  | infiniteReal
  | realNotANumber
  | infiniteDecimal
  | decimalNotANumber
  | notInteger (typeName : String)
  | realNumeral (shown : String)
  | notReal (typeName : String)
  | realOverflow
  | signalingDecimal
  | decimalNumeral (fault : Decimal.Fault)
  | moment (fault : Calendar.IsoFault) (text : Text.Points)
  | uuid (fault : Uuid.Fault)
  | textAsBytes
  | negativeSize
  | hugeSize
  | byteOutOfRange
  | notByte (typeName : String)
  | notBytes (typeName : String)
  | notBinary (column : Int) (typeName : String)
  | columnOutOfRange (column : Int) (count : Nat)
  | notSingleCharacter (fieldName shown : String)
  | notArchivable (typeName : String)
  | archive (fault : Archive.Fault)
deriving DecidableEq, Repr

def ConversionError.message : ConversionError → String
  | unwritableInteger => unwritableMessage
  | integerNumeral fault shown => fault.message .ten shown
  | infiniteReal => "cannot convert float infinity to integer"
  | realNotANumber => "cannot convert float NaN to integer"
  | infiniteDecimal => "cannot convert Infinity to integer"
  | decimalNotANumber => "cannot convert NaN to integer"
  | notInteger typeName =>
    "int() argument must be a string, a bytes-like object or a real number, not '" ++ typeName
      ++ "'"
  | realNumeral shown => "could not convert string to float: " ++ shown
  | notReal typeName =>
    "float() argument must be a string or a real number, not '" ++ typeName ++ "'"
  | realOverflow => "int too large to convert to float"
  | signalingDecimal => "cannot convert signaling NaN to float"
  | decimalNumeral fault => fault.message
  | moment fault text => fault.message text
  | uuid fault => fault.message
  | textAsBytes => "string argument without an encoding"
  | negativeSize => "negative count"
  | hugeSize => "cannot fit 'int' into an index-sized integer"
  | byteOutOfRange => "bytes must be in range(0, 256)"
  | notByte typeName => "'" ++ typeName ++ "' object cannot be interpreted as an integer"
  | notBytes typeName => "cannot convert '" ++ typeName ++ "' object to bytes"
  | notBinary column typeName =>
    "Column " ++ integerText column ++ " holds " ++ typeName ++ ", not binary data"
  | columnOutOfRange column count =>
    "Column " ++ integerText column ++ " out of range (row has " ++ natText count ++ " columns)"
  | notSingleCharacter fieldName shown =>
    "Field '" ++ fieldName ++ "' expects a single character, got " ++ shown
  | notArchivable typeName => "cannot pickle '" ++ typeName ++ "' object"
  | archive fault => fault.message

namespace Value

/-! ## Text -/

def liftShown {α : Type} (result : Except UnwritableInteger α) : Except ConversionError α :=
  result.mapError fun _ => .unwritableInteger

def asText (value : Value) : Except ConversionError Text.Points :=
  liftShown value.toText

def asShown (value : Value) : Except ConversionError String :=
  liftShown value.shown

/-! ## Bytes -/

def byteChars (value : List UInt8) : List Char :=
  value.map fun byte => Char.ofNat byte.toNat

/-! ## Truth -/

def isTrue (value : Value) : Bool :=
  match value with
  | null => false
  | boolean value => value
  | integer value => value != 0
  | real value => value != 0.0
  | text value => !value.isEmpty
  | bytes value | buffer value | window value => !value.isEmpty
  | decimal value => !value.isZero
  | list items => !items.isEmpty
  | mapping entries => !entries.isEmpty
  | illFormed _ | date _ | moment _ | uuid _ | archived _ | tagged _ => true

/-! ## Integers -/

def bytesAsInteger (value : List UInt8) : Except ConversionError Int :=
  (readAscii .ten (byteChars value)).mapError fun fault =>
    .integerNumeral fault (Text.quotedBytes (value.take 200))

def asInteger (value : Value) : Except ConversionError Int :=
  match value with
  | boolean value => .ok (if value then 1 else 0)
  | integer value => .ok value
  | real value =>
    if value.isNaN then .error .realNotANumber
    else if value.isInf then .error .infiniteReal
    else .ok (truncated value)
  | decimal value =>
    match value with
    | .infinity _ => .error .infiniteDecimal
    | .notANumber .. => .error .decimalNotANumber
    | .finite .. => .ok (value.truncatedInteger?.getD 0)
  | uuid value => .ok value.number
  | text value =>
    (readInteger .ten value).mapError fun fault => .integerNumeral fault (Text.quoted value)
  | illFormed content => .error (.integerNumeral .malformed (Text.quotedPoints content.toPoints))
  | bytes value | buffer value | window value => bytesAsInteger value
  | archived content => bytesAsInteger (Archive.encode content)
  | null | date _ | moment _ | list _ | mapping _ | tagged _ =>
    .error (.notInteger value.fullTypeName)

/-! ## Real numbers -/

def realOfText (value : String) : Except ConversionError Float :=
  match readReal? value with
  | some number => .ok number
  | none => .error (.realNumeral (Text.quoted value))

def asReal (value : Value) : Except ConversionError Float :=
  let ofBytes (content : List UInt8) : Except ConversionError Float :=
    match readAsciiReal? (byteChars content) with
    | some number => .ok number
    | none => (liftShown value.shown).bind fun shown => .error (.realNumeral shown)
  match value with
  | boolean value => .ok (if value then 1.0 else 0.0)
  | integer value =>
    match realOfInteger? value with
    | some number => .ok number
    | none => .error .realOverflow
  | real value => .ok value
  | decimal value =>
    match value with
    | .notANumber _ true _ => .error .signalingDecimal
    | .notANumber _ false _ => .ok (0.0 / 0.0)
    | .infinity negative => .ok (if negative then -(1.0 / 0.0) else 1.0 / 0.0)
    | .finite negative coefficient exponent => .ok (nearestReal negative coefficient exponent)
  | text value => realOfText value
  | illFormed content => .error (.realNumeral (Text.quotedPoints content.toPoints))
  | bytes content | buffer content | window content => ofBytes content
  | archived content => ofBytes (Archive.encode content)
  | null | date _ | moment _ | uuid _ | list _ | mapping _ | tagged _ =>
    .error (.notReal value.fullTypeName)

/-! ## Decimal numbers -/

def decimalOfText (value : Text.Points) : Except ConversionError Decimal :=
  match value.content with
  | .inl content => (Decimal.read content).mapError .decimalNumeral
  | .inr _ => .error (.decimalNumeral .malformed)

def asDecimal : Value → Except ConversionError Decimal
  | decimal value => .ok value
  | value => do decimalOfText (← value.asText)

/-! ## Points in time -/

def momentOfText (value : Text.Points) : Except ConversionError DateTime :=
  (Calendar.readIsoPoints value).mapError fun fault => .moment fault value

def asMoment : Value → Except ConversionError DateTime
  | moment value => .ok value
  | date value => .ok (.ofDate value)
  | value => do momentOfText (← value.asText)

/-! ## Identifiers -/

def uuidOfText (value : Text.Points) : Except ConversionError Uuid :=
  match value.content with
  | .inl content => (Uuid.read content).mapError .uuid
  | .inr content => .error (.uuid (Uuid.illFormedFault content))

/-! ## Rows of bytes -/

def itemAsByte : Value → Except ConversionError UInt8
  | boolean value => .ok (if value then 1 else 0)
  | integer value =>
    if 0 ≤ value ∧ value < 256 then .ok (UInt8.ofNat value.toNat) else .error .byteOutOfRange
  | value => .error (.notByte value.fullTypeName)

def indexBound : Int := 9223372036854775808

def zeroBytes (size : Int) : Except ConversionError (List UInt8) :=
  if size < -indexBound ∨ indexBound ≤ size then .error .hugeSize
  else if size < 0 then .error .negativeSize
  else .ok (List.replicate size.toNat 0)

/-- A row of bytes is kept as it is; a number asks for that many zeros; the
items of a list and the keys of a mapping are bytes themselves. -/
def asBytes (value : Value) : Except ConversionError Value :=
  match value with
  | bytes content | buffer content | window content => .ok (bytes content)
  | archived content => .ok (archived content)
  | text _ | illFormed _ => .error .textAsBytes
  | boolean flag => .ok (bytes (if flag then [0] else []))
  | integer size => (zeroBytes size).map bytes
  | list items => (items.mapM itemAsByte).map bytes
  | mapping entries => (entries.mapM fun entry => itemAsByte entry.1).map bytes
  | null | real _ | decimal _ | date _ | moment _ | uuid _ | tagged _ =>
    .error (.notBytes value.fullTypeName)

/-! ## Archives -/

mutual

def holdsWindow : Value → Bool
  | window _ => true
  | list items => itemsHoldWindow items
  | mapping entries => entriesHoldWindow entries
  | _ => false

def itemsHoldWindow : List Value → Bool
  | [] => false
  | item :: items => item.holdsWindow || itemsHoldWindow items

def entriesHoldWindow : List (Value × Value) → Bool
  | [] => false
  | (key, value) :: entries => key.holdsWindow || value.holdsWindow || entriesHoldWindow entries

end

def archive (value : Value) : Except ConversionError Value :=
  if value.holdsWindow then .error (.notArchivable "memoryview") else .ok (archived value)

def unarchive (value : Value) : Except ConversionError Value :=
  match value with
  | archived content => .ok content
  | bytes content | buffer content | window content =>
    (Archive.decode content).mapError .archive
  | _ => .ok value

end Value

end SqlDialects
