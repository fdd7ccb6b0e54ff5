import SqlDialects.Value

/-!
# Violations

What is wrong with a described value, and where: the rule that is broken, the
way from the whole description to the offending part, and that part itself.
-/

namespace SqlDialects

inductive Step where
  | key (name : Text.Points)
  | index (position : Nat)
deriving DecidableEq, Repr

/-- How a part that should be an object is refused: as a record of a named kind
or as any object that has the wanted entries. -/
inductive ObjectForm where
  | record
  | entries
deriving DecidableEq, Repr

inductive Rule where
  | missing
  | notText
  | notUnicode
  | textTooShort (least : Nat)
  | notInteger
  | integerNumeral
  | integerSize
  | integerFraction
  | finiteNumber
  | atLeast (bound : Nat)
  | notBoolean
  | booleanWord
  | choice (allowed : List String)
  | notList
  | listTooShort (least actual : Nat)
  | notObject (form : ObjectForm) (kind : String)
  | rejected (reason : Text.Points)
  | frozen
  | malformedJson (reason : String)
deriving DecidableEq, Repr

namespace Rule

def code : Rule → String
  | missing => "missing"
  | notText => "string_type"
  | notUnicode => "string_unicode"
  | textTooShort _ => "string_too_short"
  | notInteger => "int_type"
  | integerNumeral => "int_parsing"
  | integerSize => "int_parsing_size"
  | integerFraction => "int_from_float"
  | finiteNumber => "finite_number"
  | atLeast _ => "greater_than_equal"
  | notBoolean => "bool_type"
  | booleanWord => "bool_parsing"
  | choice _ => "enum"
  | notList => "list_type"
  | listTooShort .. => "too_short"
  | notObject .record _ => "model_type"
  | notObject .entries _ => "model_attributes_type"
  | rejected _ => "value_error"
  | frozen => "frozen_instance"
  | malformedJson _ => "json_invalid"

def choiceText (allowed : List String) : String :=
  let quoted := allowed.map fun choice => "'" ++ choice ++ "'"
  match quoted.reverse with
  | [] => ""
  | [only] => only
  | last :: others => ", ".intercalate others.reverse ++ " or " ++ last

def plural (count : Nat) (noun : String) : String :=
  Number.natText count ++ " " ++ noun ++ if count = 1 then "" else "s"

def message : Rule → Text.Points
  | missing => "Field required"
  | notText => "Input should be a valid string"
  | notUnicode =>
    "Input should be a valid string, unable to parse raw data as a unicode string"
  | textTooShort least => "String should have at least " ++ plural least "character"
  | notInteger => "Input should be a valid integer"
  | integerNumeral => "Input should be a valid integer, unable to parse string as an integer"
  | integerSize => "Unable to parse input string as an integer, exceeded maximum size"
  | integerFraction => "Input should be a valid integer, got a number with a fractional part"
  | finiteNumber => "Input should be a finite number"
  | atLeast bound => "Input should be greater than or equal to " ++ Number.natText bound
  | notBoolean => "Input should be a valid boolean"
  | booleanWord => "Input should be a valid boolean, unable to interpret input"
  | choice allowed => "Input should be " ++ choiceText allowed
  | notList => "Input should be a valid list"
  | listTooShort least actual =>
    "List should have at least " ++ plural least "item" ++ " after validation, not "
      ++ Number.natText actual
  | notObject .record kind => "Input should be a valid dictionary or instance of " ++ kind
  | notObject .entries _ =>
    "Input should be a valid dictionary or object to extract fields from"
  | rejected reason => "Value error, " ++ reason.replaced
  | frozen => "Instance is frozen"
  | malformedJson _ => "JSON decode error"

def context : Rule → List (String × Value)
  | textTooShort least => [("min_length", .integer least)]
  | atLeast bound => [("ge", .integer bound)]
  | choice allowed => [("expected", .text (choiceText allowed))]
  | listTooShort least actual =>
    [("field_type", .text "List"), ("min_length", .integer least),
      ("actual_length", .integer actual)]
  | notObject .record kind => [("class_name", .text kind)]
  | rejected _ => [("error", .mapping [])]
  | malformedJson reason => [("error", .text reason)]
  | _ => []

end Rule

structure Violation where
  rule : Rule
  location : List Step
  input : Value

def Violation.under (step : Step) (violation : Violation) : Violation :=
  { violation with location := step :: violation.location }

end SqlDialects
