import SqlDialects.Field
import SqlDialects.Validation.Scalar

/-!
# Reading fields from descriptions

The entries of a field description may be named in camel case or in snake case;
unknown entries are ignored.
-/

namespace SqlDialects.Field

open Checked

def checkType (input : Value) : Checked SqlType :=
  let unknown : Checked SqlType := broken (.choice (SqlType.all.map SqlType.name)) input
  match text input with
  | .valid name =>
    match name.content with
    | .inl name => (SqlType.ofName? name).elim unknown valid
    | .inr _ => broken .notUnicode input
  | .invalid _ => unknown

/-- A default is kept as text: truth values, numbers and dates are written out. -/
def checkDefault (input : Value) : Checked (Option Text.Points) :=
  match input with
  | .boolean value => valid (some (.ofString (if value then "true" else "false")))
  | .integer value =>
    if Number.isWritable value then valid (some (.ofString (Number.integerText value)))
    else broken (.rejected Number.unwritableMessage) input
  | .real value => valid (some (.ofString (Number.realText value)))
  | .date value => valid (some (.ofString value.isoText))
  | .moment value => valid (some (.ofString (value.isoText 'T')))
  | _ => orNull text input

def checkSpec (input : Value) : Checked FieldSpec :=
  let build (name : { name : String // name ≠ "" }) (sqlType : SqlType) (width : Nat)
      (columnName : Option Text.Points) (id generatedId : Bool)
      (generatedIdSequence : Option Text.Points) (allowGeneratedIdInsert nullable unique : Bool)
      (default : Option Text.Points) : FieldSpec :=
    let ⟨text, text_ne_empty⟩ := name
    ⟨text, sqlType, width, columnName, id, generatedId, generatedIdSequence,
      allowGeneratedIdInsert, nullable, unique, default, text_ne_empty⟩
  build
    <$> required ["name"] nonemptyText input
    <*> required ["type", "sql_type"] checkType input
    <*> optional ["width"] 0 natural input
    <*> optional ["columnName", "column_name"] none (orNull text) input
    <*> optional ["id"] false boolean input
    <*> optional ["generatedId", "generated_id"] false boolean input
    <*> optional ["generatedIdSequence", "generated_id_sequence"] none (orNull text) input
    <*> optional ["allowGeneratedIdInsert", "allow_generated_id_insert"] false boolean input
    <*> optional ["nullable"] true boolean input
    <*> optional ["unique"] false boolean input
    <*> optional ["default"] none checkDefault input

def check (form : ObjectForm) : Value → Checked Field :=
  object form "LogicalField" fun input =>
    (checkSpec input).andThen fun spec =>
      match ofSpec spec with
      | .ok field => valid field
      | .error fault => broken (.rejected fault.message) input

def assign (property : String) (value : Value) : Checked Field :=
  (broken .frozen value).under (.key property)

end SqlDialects.Field
