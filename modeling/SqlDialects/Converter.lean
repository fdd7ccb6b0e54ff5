import SqlDialects.Row
import SqlDialects.SqlType

/-!
# Converters

A converter carries values of one semantic type to the form in which a column
stores them and back, and reads the literal of a default.  Most databases share
the standard converter of each type.
-/

namespace SqlDialects

/-! ## Kinds -/

inductive TextKind where
  | string
  | longString
deriving DecidableEq, Repr

inductive IntegerKind where
  | byte
  | short
  | int
  | long
deriving DecidableEq, Repr

inductive RealKind where
  | float
  | double
deriving DecidableEq, Repr

inductive Converter where
  | text (kind : TextKind)
  | char
  | boolean
  | booleanNumber
  | date
  | integer (kind : IntegerKind)
  | byteInShort
  | real (kind : RealKind)
  | decimal
  | uuid
  | bytes
  | archive
deriving DecidableEq, Repr

namespace TextKind

def sqlType : TextKind → SqlType
  | string => .string
  | longString => .longString

end TextKind

namespace IntegerKind

def sqlType : IntegerKind → SqlType
  | byte => .byte
  | short => .short
  | int => .int
  | long => .long

def ofSqlType? : SqlType → Option IntegerKind
  | .byte => some byte
  | .short => some short
  | .int => some int
  | .long => some long
  | _ => none

def bits : IntegerKind → Nat
  | byte => 8
  | short => 16
  | int => 32
  | long => 64

def least (kind : IntegerKind) : Int :=
  -(Nat.pow 2 (kind.bits - 1) : Int)

def greatest (kind : IntegerKind) : Int :=
  (Nat.pow 2 (kind.bits - 1) : Int) - 1

def reader : IntegerKind → Reader
  | byte => .byte
  | short => .short
  | int => .int
  | long => .long

end IntegerKind

namespace RealKind

def sqlType : RealKind → SqlType
  | float => .float
  | double => .double

def reader : RealKind → Reader
  | float => .float
  | double => .double

end RealKind

/-! ## Default values -/

inductive DefaultValue where
  | boolean (value : Bool)
  | integer (value : Int)
  | real (value : Float)
  | decimal (value : Decimal)
  | moment (value : DateTime)
  | text (value : String)
  | illFormed (content : Text.IllFormed)
  | utf8 (content : String)

namespace DefaultValue

def toValue : DefaultValue → Value
  | boolean value => .boolean value
  | integer value => .integer value
  | real value => .real value
  | decimal value => .decimal value
  | moment value => .moment value
  | text value => .text value
  | illFormed content => .illFormed content
  | utf8 content => .bytes (Text.encodeUtf8 content)

def literal : DefaultValue → Text.Points
  | boolean value => if value then "TRUE" else "FALSE"
  | integer value => Number.integerText value
  | real value => Number.realText value
  | decimal value => value.toText
  | moment value => value.isoText ' '
  | text value => value
  | illFormed content => content.toPoints
  | utf8 content => content

end DefaultValue

/-! ## Faults of default literals -/

inductive DefaultReason where
  | notBoolean
  | notInteger
  | outsideRange (kind : IntegerKind)
  | notSingleCharacter
  | notTimestamp
  | notNumber
  | notFinite
  | notDecimal
  | notUuid
  | notSupported
deriving DecidableEq, Repr

def DefaultReason.message : DefaultReason → String
  | .notBoolean => "expected 'true' or 'false'"
  | .notInteger => "not an integer"
  | .outsideRange kind =>
    "outside " ++ kind.sqlType.name ++ " range " ++ Number.integerText kind.least ++ ".."
      ++ Number.integerText kind.greatest
  | .notSingleCharacter => "expected a single character"
  | .notTimestamp => "not an ISO-8601 timestamp"
  | .notNumber => "not a number"
  | .notFinite => "not a finite number"
  | .notDecimal => "not a decimal"
  | .notUuid => "not a UUID"
  | .notSupported => "default values are not supported for serialized objects"

structure DefaultFault where
  fieldName : String
  text : Text.Points
  reason : DefaultReason
deriving DecidableEq, Repr

def DefaultFault.message (fault : DefaultFault) : Text.Points :=
  "Invalid default '" ++ fault.text
    ++ .ofString ("' for field '" ++ fault.fieldName ++ "': " ++ fault.reason.message)

inductive DefaultError where
  | malformed (fault : DefaultFault)
  | unencodable (fault : Text.EncodingFault)
deriving DecidableEq, Repr

namespace Converter

/-! ## Attributes -/

def standard : SqlType → Converter
  | .string => text .string
  | .longString => text .longString
  | .char => char
  | .boolean => boolean
  | .date => date
  | .byte => integer .byte
  | .byteArray => bytes
  | .short => integer .short
  | .int => integer .int
  | .long => integer .long
  | .float => real .float
  | .double => real .double
  | .serializedObject => archive
  | .decimal => decimal
  | .uuid => uuid

def sqlType : Converter → SqlType
  | text kind => kind.sqlType
  | char => .char
  | boolean | booleanNumber => .boolean
  | date => .date
  | integer kind => kind.sqlType
  | byteInShort => .byte
  | real kind => kind.sqlType
  | decimal => .decimal
  | uuid => .uuid
  | bytes => .byteArray
  | archive => .serializedObject

def name : Converter → String
  | text _ => "StringConverter"
  | char => "CharConverter"
  | boolean => "BooleanConverter"
  | booleanNumber => "BooleanNumberConverter"
  | date => "DateConverter"
  | integer _ => "IntegerConverter"
  | byteInShort => "_ByteAsSmallIntConverter"
  | real _ => "FloatConverter"
  | decimal => "DecimalConverter"
  | uuid => "UuidConverter"
  | bytes => "ByteArrayConverter"
  | archive => "SerializedObjectConverter"

def label (converter : Converter) : String :=
  converter.name ++ "(" ++ converter.sqlType.name ++ ")"

def isStream : Converter → Bool
  | bytes | archive => true
  | _ => false

def quotesDefault : Converter → Bool
  | text _ | char | date | uuid | bytes => true
  | _ => false

def isStandard (converter : Converter) : Bool :=
  standard converter.sqlType == converter

/-! ## Storing -/

def uuidText (value : Value) : Except ConversionError Value := do
  let identifier ← Value.uuidOfText (← value.asText)
  return .text identifier.toText

def singleCharacter (fieldName : String) (value : Value) : Except ConversionError Value := do
  let content ← value.asText
  if content.length = 1 then return .ofPoints content
  else .error (.notSingleCharacter fieldName (← value.asShown))

def store (converter : Converter) (fieldName : String) (value : Value) :
    Except ConversionError Value :=
  match converter with
  | text _ => value.asText.map Value.ofPoints
  | char => singleCharacter fieldName value
  | boolean => .ok (.boolean value.isTrue)
  | booleanNumber => .ok (.integer (if value.isTrue then 1 else 0))
  | date => .ok value
  | integer _ | byteInShort => value.asInteger.map Value.integer
  | real _ => value.asReal.map Value.real
  | decimal => value.asDecimal.map Value.decimal
  | uuid => uuidText value
  | bytes => value.asBytes
  | archive => value.archive

def toStorage (converter : Converter) (fieldName : String) (value : Value) :
    Except ConversionError Value :=
  if value.isNull then .ok .null else converter.store fieldName value

/-! ## Reading back -/

def reader : Converter → Reader
  | text _ | char | uuid => .string
  | boolean => .boolean
  | booleanNumber => .int
  | date => .timestamp
  | integer kind => kind.reader
  | byteInShort => .short
  | real kind => kind.reader
  | decimal => .decimal
  | bytes | archive => .bytes

def clampToByte (number : Int) : Int :=
  if number < IntegerKind.byte.least then IntegerKind.byte.least
  else if IntegerKind.byte.greatest < number then IntegerKind.byte.greatest
  else number

def restore (converter : Converter) (value : Value) : Except ConversionError Value :=
  match converter, value with
  | booleanNumber, .integer number => .ok (.boolean (number != 0))
  | byteInShort, .integer number => .ok (.integer (clampToByte number))
  | uuid, stored =>
    match stored.points? with
    | some content => (Value.uuidOfText content).map Value.uuid
    | none => .ok stored
  | archive, stored => if stored.isNull then .ok .null else stored.unarchive
  | _, value => .ok value

def fromStorage (converter : Converter) (row : Row) (column : Int) :
    Except ConversionError Value := do
  converter.restore (← row.read converter.reader column)

/-! ## Default literals -/

def parseBoolean (content : String) : Except DefaultReason Bool :=
  let lowered := Text.toLower (Text.trim content)
  if lowered = "true" then .ok true
  else if lowered = "false" then .ok false
  else .error .notBoolean

def parseInteger (kind : IntegerKind) (content : String) : Except DefaultReason DefaultValue :=
  match Number.readInteger .ten (Text.trim content) with
  | .error _ => .error .notInteger
  | .ok number =>
    if kind.least ≤ number ∧ number ≤ kind.greatest then .ok (.integer number)
    else .error (.outsideRange kind)

def parseReal (content : String) : Except DefaultReason DefaultValue :=
  match Number.readReal? content with
  | none => .error .notNumber
  | some number => if number.isFinite then .ok (.real number) else .error .notFinite

def parseDecimal (content : String) : Except DefaultReason DefaultValue :=
  match Decimal.read (Text.trim content) with
  | .error _ => .error .notDecimal
  | .ok number => if number.isFinite then .ok (.decimal number) else .error .notFinite

def parseMoment (content : String) : Except DefaultReason DefaultValue :=
  match Calendar.readIsoText (Text.trim content) with
  | .error _ => .error .notTimestamp
  | .ok moment => .ok (.moment moment)

def parseUuid (content : String) : Except DefaultReason DefaultValue :=
  match Uuid.read (Text.trim content) with
  | .error _ => .error .notUuid
  | .ok identifier => .ok (.text identifier.toText)

def readDefault (converter : Converter) (content : String) : Except DefaultReason DefaultValue :=
  match converter with
  | text _ => .ok (.text content)
  | char => if content.length = 1 then .ok (.text content) else .error .notSingleCharacter
  | boolean => (parseBoolean content).map DefaultValue.boolean
  | booleanNumber => (parseBoolean content).map fun flag => .integer (if flag then 1 else 0)
  | date => parseMoment content
  | integer kind => parseInteger kind content
  | byteInShort => parseInteger .short content
  | real _ => parseReal content
  | decimal => parseDecimal content
  | uuid => parseUuid content
  | bytes => .ok (.utf8 content)
  | archive => .error .notSupported

def parseIllFormedMoment (content : Text.IllFormed) : Except DefaultReason DefaultValue :=
  match Calendar.readIsoPoints content.trim with
  | .error _ => .error .notTimestamp
  | .ok moment => .ok (.moment moment)

/-- Reads the ill-formed default literal of a field.  A text is kept as it is; numerals,
words and identifiers consist of characters, and bytes are asked of characters only. -/
def parseIllFormed (converter : Converter) (fieldName : String) (content : Text.IllFormed) :
    Except DefaultError DefaultValue :=
  let malformed (reason : DefaultReason) : DefaultError :=
    .malformed ⟨fieldName, content.toPoints, reason⟩
  match converter with
  | text _ => .ok (.illFormed content)
  | char =>
    if content.length = 1 then .ok (.illFormed content)
    else .error (malformed .notSingleCharacter)
  | boolean | booleanNumber => .error (malformed .notBoolean)
  | date => (parseIllFormedMoment content).mapError malformed
  | integer _ | byteInShort => .error (malformed .notInteger)
  | real _ => .error (malformed .notNumber)
  | decimal => .error (malformed .notDecimal)
  | uuid => .error (malformed .notUuid)
  | bytes => .error (.unencodable content.encodingFault)
  | archive => .error (malformed .notSupported)

def parseDefault (converter : Converter) (fieldName : String) (literal : Text.Points) :
    Except DefaultError DefaultValue :=
  match literal.content with
  | .inl content =>
    (converter.readDefault content).mapError fun reason => .malformed ⟨fieldName, literal, reason⟩
  | .inr content => converter.parseIllFormed fieldName content

end Converter

end SqlDialects
