import SqlDialects.Calendar.Date
import SqlDialects.Text.Base64
import SqlDialects.Value
import SqlDialects.Yaml.Token

/-!
# The values of scalars

A plain scalar is given a tag by its form: whether it looks like a truth value, a
number, a point in time or nothing at all.  The forms of truth values and numbers
depend on the version of the language.  A tag then says how the value is made.
-/

namespace SqlDialects.Yaml

open Number

inductive Tag where
  | null
  | boolean
  | integer
  | real
  | text
  | bytes
  | timestamp
  | sequence
  | mapping
  | orderedMapping
  | pairs
  | set
  | merge
  | defaultValue
  | other (name : String)
deriving DecidableEq, Repr

namespace Tag

def standardPrefix : String := "tag:yaml.org,2002:"

def standardNames : List (String × Tag) :=
  [("null", null), ("bool", boolean), ("int", integer), ("float", real), ("str", text),
    ("binary", bytes), ("timestamp", timestamp), ("seq", sequence), ("map", mapping),
    ("omap", orderedMapping), ("pairs", pairs), ("set", set), ("merge", merge),
    ("value", defaultValue)]

def ofName (name : String) : Tag :=
  match standardNames.find? fun entry => standardPrefix ++ entry.1 == name with
  | some (_, tag) => tag
  | none => other name

end Tag

/-! ## Forms -/

def isOneOf (words : List String) (content : List Char) : Bool :=
  words.any fun word => word.toList == content

def isNullForm (content : List Char) : Bool :=
  isOneOf ["", "~", "null", "Null", "NULL"] content

def isBooleanForm (version : Version) (content : List Char) : Bool :=
  isOneOf ["true", "True", "TRUE", "false", "False", "FALSE"] content
    || (version == .oldest && isOneOf ["y", "Y", "yes", "Yes", "YES", "n", "N", "no", "No", "NO",
      "on", "On", "ON", "off", "Off", "OFF"] content)

def isDigitOrGap (c : Char) : Bool :=
  c.isDigit || c == '_'

def dropSign : List Char → List Char
  | '-' :: rest | '+' :: rest => rest
  | rest => rest

def isDigits (content : List Char) : Bool :=
  !content.isEmpty && content.all Char.isDigit

def isExponentForm (signed : Bool) : List Char → Bool
  | mark :: rest =>
    (mark == 'e' || mark == 'E')
      && (isDigits (dropSign rest)) && (!signed || rest.head? == some '-' || rest.head? == some '+')
  | [] => false

def spanWhole? (content : List Char) : Option (List Char) :=
  if content.head?.any Char.isDigit then some (content.dropWhile isDigitOrGap) else none

def isFractionForm (signed : Bool) (content : List Char) : Bool :=
  let rest := content.dropWhile isDigitOrGap
  rest.isEmpty || isExponentForm signed rest

def dropSixtieths : List Char → List Char
  | ':' :: tens :: ones :: rest =>
    if decide ('0' ≤ tens) && decide (tens ≤ '5') && ones.isDigit then dropSixtieths rest
    else if tens.isDigit then dropSixtieths (ones :: rest)
    else ':' :: tens :: ones :: rest
  | ':' :: digit :: [] => if digit.isDigit then [] else [':', digit]
  | rest => rest

def isSixtiethsForm (content : List Char) : Bool :=
  content.head? == some ':' && (dropSixtieths content).isEmpty

def isRealForm (version : Version) (content : List Char) : Bool :=
  let unsigned := dropSign content
  let positional :=
    match spanWhole? unsigned with
    | some ('.' :: fraction) => isFractionForm false fraction
    | some rest =>
      isExponentForm false rest
        || (version == .oldest && rest.head? == some ':'
          && match dropSixtieths rest with
            | '.' :: fraction => fraction.all isDigitOrGap
            | _ => false)
    | none => false
  let fractional :=
    match if version == .oldest then content else unsigned with
    | '.' :: fraction => fraction.head?.any isDigitOrGap && isFractionForm true fraction
    | _ => false
  positional || fractional || isOneOf [".inf", ".Inf", ".INF"] unsigned
    || isOneOf [".nan", ".NaN", ".NAN"] content

def isIn (digits : String) (content : List Char) : Bool :=
  !content.isEmpty && content.all fun c => c == '_' || digits.toList.contains c

def isIntegerForm (version : Version) (content : List Char) : Bool :=
  let unsigned := dropSign content
  let octal := "01234567"
  let decimal := "0123456789"
  let marked :=
    match unsigned with
    | '0' :: 'b' :: digits => isIn "01" digits
    | '0' :: 'x' :: digits => isIn "0123456789abcdefABCDEF" digits
    | '0' :: 'o' :: digits => version != .oldest && isIn octal digits
    | _ => false
  let bare :=
    if version == .oldest then
      isIn octal unsigned
        || (unsigned.head?.any fun c => c.isDigit && c != '0')
          && (isIn decimal unsigned || isSixtiethsForm (unsigned.dropWhile isDigitOrGap))
    else isIn decimal unsigned
  content.head? != some '_' && (marked || bare)

/-! ## Points in time -/

structure TimestampParts where
  year : Nat
  month : Nat
  day : Nat
  clock : Option (Nat × Nat × Nat × List Char)
  zone : Option (Bool × Nat × Nat)
  isPadded : Bool

def oneOrTwoDigits? : List Char → Option (Nat × Nat × List Char)
  | a :: b :: rest =>
    match Text.asciiDigit? a, Text.asciiDigit? b with
    | some a, some b => some (a * 10 + b, 2, rest)
    | some a, none => some (a, 1, b :: rest)
    | none, _ => none
  | [a] => (Text.asciiDigit? a).map fun a => (a, 1, [])
  | [] => none

def twoDigits? (content : List Char) : Option (Nat × List Char) :=
  (oneOrTwoDigits? content).bind fun (value, count, rest) =>
    if count = 2 then some (value, rest) else none

def expect? (expected : Char) : List Char → Option (List Char)
  | c :: rest => if c = expected then some rest else none
  | [] => none

def zone? (content : List Char) : Option (Option (Bool × Nat × Nat)) :=
  match content with
  | [] => some none
  | _ =>
    match content.dropWhile isSpace with
    | ['Z'] => some (some (false, 0, 0))
    | sign :: rest =>
      if sign == '-' || sign == '+' then
        (oneOrTwoDigits? rest).bind fun (hours, _, rest) =>
          match rest with
          | [] => some (some (sign == '-', hours, 0))
          | ':' :: rest =>
            (twoDigits? rest).bind fun (minutes, rest) =>
              if rest.isEmpty then some (some (sign == '-', hours, minutes)) else none
          | _ => none
      else none
    | [] => none

def timestampClock? (content : List Char) : Option ((Nat × Nat × Nat × List Char) × List Char) := do
  let (hour, _, rest) ← oneOrTwoDigits? content
  let (minute, rest) ← twoDigits? (← expect? ':' rest)
  let (second, rest) ← twoDigits? (← expect? ':' rest)
  match rest with
  | '.' :: rest => some ((hour, minute, second, rest.takeWhile Char.isDigit),
      rest.dropWhile Char.isDigit)
  | _ => some ((hour, minute, second, []), rest)

def dropClockMark? : List Char → Option (List Char)
  | 'T' :: rest | 't' :: rest => some rest
  | c :: rest => if isSpace c then some (rest.dropWhile isSpace) else none
  | [] => none

def timestampParts? (content : List Char) : Option TimestampParts := do
  let (high, rest) ← twoDigits? content
  let (low, rest) ← twoDigits? rest
  let (month, monthDigits, rest) ← oneOrTwoDigits? (← expect? '-' rest)
  let (day, dayDigits, rest) ← oneOrTwoDigits? (← expect? '-' rest)
  let isPadded := monthDigits == 2 && dayDigits == 2
  match rest with
  | [] => return ⟨high * 100 + low, month, day, none, none, isPadded⟩
  | _ =>
    let (clock, rest) ← timestampClock? (← dropClockMark? rest)
    let zone ← zone? rest
    return ⟨high * 100 + low, month, day, some clock, zone, isPadded⟩

def isTimestampForm (content : List Char) : Bool :=
  (timestampParts? content).any fun parts => parts.clock.isSome || parts.isPadded

/-! ## Tags of plain scalars -/

/-- The tag that the form of a plain scalar gives; versions without rules have none. -/
def plainTag? (version : Version) (content : List Char) : Option Tag :=
  if !version.isKnown then none
  else if isBooleanForm version content then some .boolean
  else if isRealForm version content then some .real
  else if isIntegerForm version content then some .integer
  else if content = ['<', '<'] then some .merge
  else if isNullForm content then some .null
  else if isTimestampForm content then some .timestamp
  else if content = ['='] then some .defaultValue
  else some .text

/-! ## Values -/

def readIntegerIn (base : Base) (content : List Text.CodePoint) : Except Fault Int :=
  let numeral : Text.Points := ⟨content⟩
  -- The replacement character is no digit either.
  (readInteger base numeral.shown).mapError fun fault => .integerNumeral fault base numeral

def sixtieths (content : List Text.CodePoint) : Except Fault Int := do
  let parts := content.splitOn (.char ':')
  parts.foldlM (fun value part => do return value * 60 + (← readIntegerIn .ten part)) 0

def unsignedInteger (version : Version) (content : List Text.CodePoint) : Except Fault Int :=
  match content with
  | [] => .error .emptyNumeral
  | .char '0' :: .char 'b' :: digits =>
    if version.isModern && digits.isEmpty then .error .emptyNumeral
    else readIntegerIn .two digits
  | .char '0' :: .char 'x' :: digits => readIntegerIn .sixteen digits
  | .char '0' :: .char 'o' :: digits => readIntegerIn .eight digits
  | [.char '0'] => .ok 0
  | _ =>
    if version.isModern then readIntegerIn .ten content
    else if content.head? = some (.char '0') then readIntegerIn .eight content
    else if content.contains (.char ':') then sixtieths content
    else readIntegerIn .ten content

def integerValue (version : Version) (content : Text.Points) : Except Fault Int :=
  match content.toList.filter (· != .char '_') with
  | [] => .error .emptyNumeral
  | .char '-' :: rest => do return -(← unsignedInteger version rest)
  | .char '+' :: rest => unsignedInteger version rest
  | rest => unsignedInteger version rest

def readRealText (content : Text.Points) : Except Fault Float :=
  match readReal? content.shown with
  | some number => .ok number
  | none => .error (.realNumeral content)

def checkExponent (content : List Text.CodePoint) : Except Fault Unit :=
  let mark : Text.CodePoint := if content.count (.char 'e') = 1 then .char 'e' else .char 'E'
  if content.count mark = 1 then
    if content.getLast? = some mark then .error .emptyNumeral else .ok ()
  else .error (.exponentMarks (content.count mark))

def realSixtieths (content : List Text.CodePoint) : Except Fault Float :=
  (content.splitOn (.char ':')).foldlM
    (fun value part => do return value * 60.0 + (← readRealText ⟨part⟩)) 0.0

def unsignedReal (version : Version) (written : Text.Points) (content : List Text.CodePoint) :
    Except Fault Float :=
  if (⟨content⟩ : Text.Points) = ".inf" then .ok (1.0 / 0.0)
  else if (⟨content⟩ : Text.Points) = ".nan" then .ok (0.0 / 0.0)
  else if !version.isModern && content.contains (.char ':') then realSixtieths content
  else if content.contains (.char 'e') then do
    checkExponent written.toList
    readRealText ⟨content⟩
  else readRealText ⟨content⟩

def realValue (version : Version) (content : Text.Points) : Except Fault Float :=
  let lowered := (Text.Points.mk (content.toList.filter (· != .char '_'))).toLower
  match lowered.toList with
  | [] => .error .emptyNumeral
  | .char '-' :: rest => do return -(← unsignedReal version content rest)
  | .char '+' :: rest => unsignedReal version content rest
  | rest => unsignedReal version content rest

def booleanValue (content : Text.Points) : Except Fault Bool :=
  let word := content.toLower
  if ["yes", "y", "true", "on"].any fun other => word = other then .ok true
  else if ["no", "n", "false", "off"].any fun other => word = other then .ok false
  else .error (.booleanWord word)

/-- The microseconds of a fraction; a seventh digit rounds. -/
def fractionMicroseconds (digits : List Char) : Nat :=
  let value := digitsValue ((digits ++ List.replicate 6 '0').take 6)
  if (digits[6]?).any fun c => decide ('5' ≤ c) then value + 1 else value

def nextSecond (moment : DateTime) : Except Calendar.Fault DateTime := do
  let seconds :=
    (moment.time.hour * 60 + moment.time.minute) * 60 + moment.time.second + 1
  let time ←
    TimeOfDay.ofNumbers (seconds / 3600 % 24) (seconds / 60 % 60) (seconds % 60)
      moment.time.microsecond
  if seconds < 86400 then return { moment with time := time }
  else
    let date := moment.date
    let inMonth := date.day < Calendar.daysInMonth date.year date.month
    let date ←
      if inMonth then Date.ofNumbers date.year date.month (date.day + 1)
      else if date.month < 12 then Date.ofNumbers date.year (date.month + 1) 1
      else (Date.ofNumbers (date.year + 1) 1 1).mapError fun _ => .afterLastYear
    return { moment with date := date, time := time }

def timestampValue (content : List Char) : Except Fault Value :=
  match timestampParts? content with
  | none => .error .malformed
  | some parts => Except.mapError Fault.calendar do
    let date ← Date.ofNumbers parts.year parts.month parts.day
    match parts.clock with
    | none => return .date date
    | some (hour, minute, second, fraction) =>
      let microseconds := fractionMicroseconds fraction
      let time ← TimeOfDay.ofNumbers hour minute second (microseconds % 1000000)
      let offset ← parts.zone.mapM fun (negative, hours, minutes) =>
        let size : Int := (hours * 60 + minutes) * 60000000
        Offset.ofMicroseconds (if negative then -size else size)
      let moment : DateTime := ⟨date, time, offset⟩
      return .moment (← if microseconds < 1000000 then pure moment else nextSecond moment)

def bytesValue (content : List Char) : Except Fault Value :=
  if content.all fun c => decide (c.toNat < 128) then
    match Text.decodeBase64? content with
    | some bytes => .ok (.bytes bytes)
    | none => .error .malformed
  else .error .malformed

/-- The value of a scalar with a tag.  A truth value with an anchor is a number. -/
def scalarValue (version : Version) (tag : Tag) (isAnchored : Bool) (content : Text.Points) :
    Except Fault Value :=
  match tag with
  | .null => .ok .null
  | .boolean => do
    let value ← booleanValue content
    return if isAnchored then .integer (if value then 1 else 0) else .boolean value
  | .integer => (integerValue version content).map .integer
  | .real => (realValue version content).map .real
  | .text => .ok (.ofPoints content)
  | .bytes => bytesValue content.shown.toList
  | .timestamp => timestampValue content.shown.toList
  | .merge | .defaultValue | .other _ => .ok (.tagged content)
  | .sequence | .mapping | .orderedMapping | .pairs | .set => .error .malformed

end SqlDialects.Yaml
