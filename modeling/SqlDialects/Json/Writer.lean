import SqlDialects.Number.Real
import SqlDialects.Text.Quoted
import SqlDialects.Value

/-!
# Writing JSON

Texts, numbers, truth values, null, lists and mappings with text keys have a
JSON form; anything else is written as null.  A number that is not finite has
no form in strict JSON.  Half a surrogate pair stands in the form of an
ill-formed text as it is, so that this form has no bytes; it has some once the
halves are escaped.
-/

namespace SqlDialects.Json

open Text (CodePoint Points)

def escapeChar (c : Char) : List Char :=
  if c = '"' then ['\\', '"']
  else if c = '\\' then ['\\', '\\']
  else if c = '\n' then ['\\', 'n']
  else if c = '\r' then ['\\', 'r']
  else if c = '\t' then ['\\', 't']
  else if c = '\x08' then ['\\', 'b']
  else if c = '\x0c' then ['\\', 'f']
  else if c.toNat < 32 then '\\' :: 'u' :: Text.hexDigits 4 c.toNat
  else [c]

def escapePoint : CodePoint → List CodePoint
  | .char c => (escapeChar c).map .char
  | .half offset => [.half offset]

def stringForm (content : Points) : List CodePoint :=
  .char '"' :: content.toList.flatMap escapePoint ++ [.char '"']

def wordForm (word : String) : List CodePoint :=
  (Points.ofString word).toList

mutual

def form : Value → List CodePoint
  | .boolean value => wordForm (if value then "true" else "false")
  | .integer value => wordForm (Number.integerText value)
  | .real value => wordForm (Number.realText value)
  | .text value => stringForm value
  | .illFormed content => stringForm content.toPoints
  | .list items => .char '[' :: (wordForm ",").intercalate (itemForms items) ++ [.char ']']
  | .mapping entries =>
    .char '\x7b' :: (wordForm ",").intercalate (entryForms entries) ++ [.char '\x7d']
  | _ => wordForm "null"

def itemForms : List Value → List (List CodePoint)
  | [] => []
  | item :: items => form item :: itemForms items

def entryForms : List (Value × Value) → List (List CodePoint)
  | [] => []
  | (key, value) :: entries =>
    match key.points? with
    | some key => (stringForm key ++ .char ':' :: form value) :: entryForms entries
    | none => entryForms entries

end

def write (value : Value) : String :=
  (Points.mk (form value)).escaped

def encodingFault? (value : Value) : Option Text.EncodingFault :=
  Text.firstHalves? 0 (form value)

mutual

def isStrict : Value → Bool
  | .real value => value.isFinite
  | .list items => itemsAreStrict items
  | .mapping entries => entriesAreStrict entries
  | _ => true

def itemsAreStrict : List Value → Bool
  | [] => true
  | item :: items => isStrict item && itemsAreStrict items

def entriesAreStrict : List (Value × Value) → Bool
  | [] => true
  | (_, value) :: entries => isStrict value && entriesAreStrict entries

end

end SqlDialects.Json
