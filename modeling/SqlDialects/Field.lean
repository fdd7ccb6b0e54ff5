import SqlDialects.SqlType
import SqlDialects.Text.CodePoint

/-!
# Logical fields

A field describes a column without naming a database: its type, its width, its
part in the table's identity and its constraints.  The names of its column and its
sequence and its default may be ill-formed texts.
-/

namespace SqlDialects

structure FieldSpec where
  name : String
  sqlType : SqlType
  width : Nat
  columnName : Option Text.Points
  id : Bool
  generatedId : Bool
  generatedIdSequence : Option Text.Points
  allowGeneratedIdInsert : Bool
  nullable : Bool
  unique : Bool
  default : Option Text.Points
  name_ne_empty : name ≠ ""
deriving DecidableEq, Repr

namespace FieldSpec

/-- The name of the column: an empty column name counts as absent. -/
def column (spec : FieldSpec) : Text.Points :=
  match spec.columnName with
  | some column => if column = "" then spec.name else column
  | none => spec.name

def isGeneratedId (spec : FieldSpec) : Bool :=
  spec.generatedId || spec.generatedIdSequence.isSome

def isId (spec : FieldSpec) : Bool :=
  spec.id || spec.isGeneratedId

def idFlagCount (spec : FieldSpec) : Nat :=
  [spec.id, spec.generatedId, spec.generatedIdSequence.isSome].count true

end FieldSpec

structure Field extends FieldSpec where
  oneIdFlag : toFieldSpec.idFlagCount ≤ 1
  insertNeedsGeneratedId : allowGeneratedIdInsert = true → toFieldSpec.isGeneratedId = true
deriving DecidableEq, Repr

inductive FieldFault where
  | severalIdFlags (name : String)
  | insertWithoutGeneratedId (name : String)
deriving DecidableEq, Repr

def FieldFault.message : FieldFault → String
  | .severalIdFlags name =>
    "Field '" ++ name ++ "' must set only one of id, generatedId, generatedIdSequence"
  | .insertWithoutGeneratedId name =>
    "Field '" ++ name ++ "' sets allowGeneratedIdInsert without a generated id"

namespace Field

def ofSpec (spec : FieldSpec) : Except FieldFault Field :=
  if hFlags : spec.idFlagCount ≤ 1 then
    if hInsert : spec.allowGeneratedIdInsert = true → spec.isGeneratedId = true then
      .ok ⟨spec, hFlags, hInsert⟩
    else .error (.insertWithoutGeneratedId spec.name)
  else .error (.severalIdFlags spec.name)

end Field

end SqlDialects
