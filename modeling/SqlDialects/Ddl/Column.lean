import SqlDialects.Ddl.Context
import SqlDialects.Dialect

/-!
# Column definitions

A column definition is the quoted column, its type, its default, the clause that
makes it an id, and `NOT NULL`.  Keys, uniqueness, sequences and session
settings go to the context.
-/

namespace SqlDialects.Dialect

open Text (Points)

def joinWords (words : List Points) : Points :=
  Points.intercalate " " (words.filter fun word => word ≠ "")

/-! ## Defaults -/

def defaultClause (dialect : Dialect) (field : FieldSpec) : Except RenderError Points :=
  match field.default with
  | none => .error .noDefault
  | some content =>
    let converter := dialect.converterFor field.sqlType
    match converter.parseDefault field.name content with
    | .error error => .error (.ofDefault error)
    | .ok value =>
      let literal := value.literal
      .ok ("DEFAULT " ++ if converter.quotesDefault then quoteLiteral literal else literal)

/-! ## Ids -/

def idClause (dialect : Dialect) (field : FieldSpec) : Ddl Points := do
  Ddl.addArgument ("PRIMARY KEY (" ++ dialect.quoteIdentifier field.column ++ ")")
  return ""

def sequenceClause (dialect : Dialect) (field : FieldSpec) (sequence : Points) : Ddl Points := do
  if dialect.idGeneration = .sequence then
    let quoted := dialect.quoteIdentifier sequence
    Ddl.addBefore ("CREATE SEQUENCE " ++ quoted)
    let key ← dialect.idClause field
    return joinWords ["DEFAULT NEXTVAL(" ++ quoteLiteral quoted ++ ")", key]
  else throw (.unsupported dialect.name .generatedIdSequences)

def generatedIdClause (dialect : Dialect) (field : FieldSpec) : Ddl Points := do
  match dialect.idGeneration with
  | .none => throw (.unsupported dialect.name .generatedIds)
  | .sequence => dialect.sequenceClause field (sequenceName (← get).tableName field)
  | .autoIncrement => return joinWords ["AUTO_INCREMENT", ← dialect.idClause field]
  | .identity =>
    let key ← dialect.idClause field
    if field.allowGeneratedIdInsert then
      let table := dialect.quoteIdentifier (← get).tableName
      Ddl.addAfter ("SET IDENTITY_INSERT " ++ table ++ " ON")
    return joinWords ["IDENTITY", key]
  | .inlineAutoincrement =>
    if field.sqlType = .int ∨ field.sqlType = .long then return "PRIMARY KEY AUTOINCREMENT"
    else throw (.unsupported dialect.name (.generatedIdOfType field.sqlType))

def identityClause (dialect : Dialect) (field : FieldSpec) : Ddl Points :=
  match field.generatedIdSequence with
  | some sequence =>
    if dialect.capabilities.generatedIdSequence then dialect.sequenceClause field sequence
    else dialect.generatedIdClause field
  | none =>
    if field.isGeneratedId then dialect.generatedIdClause field
    else if field.id then dialect.idClause field
    else return ""

/-! ## The definition -/

def constraintClause (dialect : Dialect) (field : FieldSpec) : Ddl Points := do
  if field.isGeneratedId then return ""
  else
    if field.unique then
      Ddl.addArgument ("UNIQUE (" ++ dialect.quoteIdentifier field.column ++ ")")
    return if field.nullable then "" else "NOT NULL"

def columnDefinition (dialect : Dialect) (field : FieldSpec) : Ddl Points := do
  -- The first step that fails decides on the error, so the default comes before the id.
  let columnType ← dialect.columnType field
  let default ← if field.default.isSome then liftExcept (dialect.defaultClause field) else pure ""
  let identity ← dialect.identityClause field
  let constraint ← dialect.constraintClause field
  return joinWords [dialect.quoteIdentifier field.column, columnType, default, identity, constraint]
where
  liftExcept (result : Except RenderError Points) : Ddl Points := ExceptT.mk (pure result)

def droppedSequence (tableName : String) (field : FieldSpec) : Points :=
  match field.generatedIdSequence with
  | some name => if name = "" then sequenceName tableName field else name
  | none => sequenceName tableName field

def dropColumn (dialect : Dialect) (field : FieldSpec) : Ddl Unit := do
  if dialect.idGeneration = .sequence ∧ field.isGeneratedId then
    let sequence := droppedSequence (← get).tableName field
    -- The default of a column depends on the sequence until the table is gone.
    Ddl.addAfter ("DROP SEQUENCE " ++ dialect.quoteIdentifier sequence)

end SqlDialects.Dialect
