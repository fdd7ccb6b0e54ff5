import SqlDialects.Value.Archive
import SqlDialects.Text.Quoted

/-!
# Values as text

The plain text of a value, and its shown form, which tells texts from numbers
and is used inside lists, mappings and messages.  An integer of too many digits
has no text.
-/

namespace SqlDialects.Value

open Number

structure UnwritableInteger where
deriving DecidableEq, Repr

def integerShown (number : Int) : Except UnwritableInteger String :=
  if isWritable number then .ok (integerText number) else .error {}

def dateShown (date : Date) : String :=
  "datetime.date(" ++ ", ".intercalate ([date.year, date.month, date.day].map natText) ++ ")"

/-- Trailing zeros of second and microsecond are left out. -/
def momentShown (moment : DateTime) : String :=
  let time := moment.time
  let tail :=
    if time.microsecond ≠ 0 then [time.second, time.microsecond]
    else if time.second ≠ 0 then [time.second]
    else []
  let numbers :=
    [moment.date.year, moment.date.month, moment.date.day, time.hour, time.minute] ++ tail
  let zone :=
    match moment.offset with
    | none => []
    | some offset =>
      if offset.microseconds = 0 then ["tzinfo=datetime.timezone.utc"]
      else ["tzinfo=datetime.timezone(" ++ spanText offset.microseconds ++ ")"]
  "datetime.datetime(" ++ ", ".intercalate (numbers.map natText ++ zone) ++ ")"

mutual

def shown : Value → Except UnwritableInteger String
  | null => .ok "None"
  | boolean value => .ok (if value then "True" else "False")
  | integer value => integerShown value
  | real value => .ok (realText value)
  | text value => .ok (Text.quoted value)
  | illFormed content => .ok (Text.quotedPoints content.toPoints)
  | bytes value => .ok (Text.quotedBytes value)
  | buffer value => .ok ("bytearray(" ++ Text.quotedBuffer value ++ ")")
  | window _ => .ok "<memory>"
  | decimal value => .ok ("Decimal('" ++ value.toText ++ "')")
  | date value => .ok (dateShown value)
  | moment value => .ok (momentShown value)
  | uuid value => .ok ("UUID('" ++ value.toText ++ "')")
  | list items => (itemsShown items).map fun parts => "[" ++ ", ".intercalate parts ++ "]"
  | mapping entries =>
    (entriesShown entries).map fun parts => "\x7b" ++ ", ".intercalate parts ++ "\x7d"
  | archived content => .ok (Text.quotedBytes (Archive.encode content))
  | tagged content => .ok content.escaped

def itemsShown : List Value → Except UnwritableInteger (List String)
  | [] => .ok []
  | item :: items => do
    let first ← shown item
    let rest ← itemsShown items
    return first :: rest

def entriesShown : List (Value × Value) → Except UnwritableInteger (List String)
  | [] => .ok []
  | (key, value) :: entries => do
    let first ← shown key
    let second ← shown value
    let rest ← entriesShown entries
    return (first ++ ": " ++ second) :: rest

end

def toText : Value → Except UnwritableInteger Text.Points
  | text value => .ok value
  | illFormed content => .ok content.toPoints
  | tagged content => .ok content
  | decimal value => .ok value.toText
  | date value => .ok value.isoText
  | moment value => .ok (value.isoText ' ')
  | uuid value => .ok value.toText
  | value => value.shown.map .ofString

end SqlDialects.Value
