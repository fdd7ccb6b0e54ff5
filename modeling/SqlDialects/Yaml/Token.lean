import SqlDialects.Calendar.DateTime
import SqlDialects.Text.CodePoint
import SqlDialects.Yaml.Comment

/-!
# Tokens

The tokens of a document, with the places at which they start and stop.
-/

namespace SqlDialects.Yaml

structure Version where
  major : Nat
  minor : Nat
deriving DecidableEq, Repr, Inhabited

namespace Version

def oldest : Version := ⟨1, 1⟩

def newest : Version := ⟨1, 2⟩

def isModern (version : Version) : Bool :=
  decide (1 < version.major) || (version.major == 1 && decide (1 < version.minor))

def isKnown (version : Version) : Bool :=
  version == oldest || version == newest

end Version

/-- Why a document cannot be loaded.  Most faults break the grammar; the others
arise when a well-formed scalar has no value, when a key has no text, or where two
comments meet. -/
inductive Fault where
  | malformed
  | unknownVersion (version : Version)
  | characterCode (code : Nat)
  | emptyNumeral
  | booleanWord (word : Text.Points)
  | integerNumeral (fault : Number.IntegerFault) (base : Number.Base) (text : Text.Points)
  | realNumeral (text : Text.Points)
  | exponentMarks (count : Nat)
  | calendar (fault : Calendar.Fault)
  | unhashable (typeName : String)
  | repeatedEntry
  | unwritableKey
  | overlappingComments (given own : Comments)
  | endless
deriving DecidableEq, Repr

def Fault.message : Fault → String
  | .malformed => "malformed document"
  | .unknownVersion version =>
    "(" ++ Number.natText version.major ++ ", " ++ Number.natText version.minor ++ ")"
  | .characterCode code =>
    if code < 2147483648 then "chr() arg not in range(0x110000)"
    else "Python int too large to convert to C int"
  | .emptyNumeral => "string index out of range"
  | .booleanWord word => Text.quotedPoints word
  | .integerNumeral fault base text => fault.message base (Text.quotedPoints text)
  | .realNumeral text => "could not convert string to float: " ++ Text.quotedPoints text
  | .exponentMarks count =>
    if count = 0 then "not enough values to unpack (expected 2, got 1)"
    else "too many values to unpack (expected 2)"
  | .calendar fault => fault.message
  | .unhashable typeName => "unhashable type: '" ++ typeName ++ "'"
  | .repeatedEntry => ""
  | .unwritableKey => Number.unwritableMessage
  | .overlappingComments given own => "overlap in comment " ++ given.shown ++ " " ++ own.shown
  | .endless => "maximum recursion depth exceeded"

inductive ScalarStyle where
  | plain
  | single
  | double
  | literal
  | folded
deriving DecidableEq, Repr

inductive Directive where
  | version (version : Version)
  | tag (handle tagPrefix : String)
  | unknown
deriving DecidableEq, Repr

inductive TokenKind where
  | directive (content : Directive)
  | documentStart
  | documentEnd
  | blockSequenceStart
  | blockMappingStart
  | blockEnd
  | flowSequenceStart
  | flowSequenceEnd
  | flowMappingStart
  | flowMappingEnd
  | blockEntry
  | flowEntry
  | key
  | value
  | aliasOf (name : String)
  | anchor (name : String)
  | tag (handle : Option String) (suffix : String)
  | scalar (style : ScalarStyle) (content : Text.Points)
  | comment (content : String)
  | streamEnd
deriving DecidableEq, Repr

structure Token where
  kind : TokenKind
  start : Mark
  stop : Mark
  comments : Comments := {}
deriving DecidableEq, Repr

end SqlDialects.Yaml
