import SqlDialects.RenderError
import SqlDialects.Field

/-!
# Dialects

A dialect is described by data: its names, its capabilities, its quote
character, the column types on which databases disagree, and the way in which it
makes the values of ids.  Everything else is common to all dialects.
-/

namespace SqlDialects

structure Capabilities where
  supportsLimit : Bool := true
  supportsOffset : Bool := true
  limitAfterSelect : Bool := false
  offsetRequiresLimit : Bool := false
  allowGeneratedIdInsert : Bool := true
  generatedIdSequence : Bool := false
  createIfNotExists : Bool := true
deriving DecidableEq, Repr

structure TypeNames where
  boolean : String := "BOOLEAN"
  date : String := "TIMESTAMP"
  byte : String := "TINYINT"
  byteArray : String := "BLOB"
  generatedLong : String := "BIGINT"
deriving DecidableEq, Repr

inductive IdGeneration where
  | none
  | sequence
  | autoIncrement
  | identity
  | inlineAutoincrement
deriving DecidableEq, Repr

structure Dialect where
  name : String
  kind : String
  databaseName : String
  driverName : String
  capabilities : Capabilities := {}
  quote : Char := '"'
  typeNames : TypeNames := {}
  idGeneration : IdGeneration := .none
  overrides : SqlType → Option Converter := fun _ => none
  tableSuffix : String := ""
  limitKeyword : String := "LIMIT"
  matchesScheme : Text.Points → Bool := fun scheme => scheme == name

/-! ## Quoting -/

def doubleQuotes (quote : Text.CodePoint) : List Text.CodePoint → List Text.CodePoint
  | [] => []
  | point :: rest =>
    if point = quote then quote :: quote :: doubleQuotes quote rest
    else point :: doubleQuotes quote rest

def enclose (quote : Char) (text : Text.Points) : Text.Points :=
  let mark : Text.CodePoint := quote
  ⟨mark :: doubleQuotes mark text.toList ++ [mark]⟩

def quoteLiteral (text : Text.Points) : Text.Points :=
  enclose '\'' text

namespace Dialect

def quoteIdentifier (dialect : Dialect) (name : Text.Points) : Text.Points :=
  enclose dialect.quote name

/-! ## Names -/

def label (dialect : Dialect) : String :=
  "<" ++ dialect.kind ++ " " ++ dialect.name ++ ">"

def converterFor (dialect : Dialect) (sqlType : SqlType) : Converter :=
  (dialect.overrides sqlType).getD (.standard sqlType)

def sequenceName (tableName : String) (field : FieldSpec) : Text.Points :=
  .ofString (tableName ++ "_") ++ field.column ++ "_seq"

/-! ## Column types -/

def stringWidth : Nat := 255

def uuidWidth : Nat := 48

/-- A width of zero stands for the usual one. -/
def varchar (usual width : Nat) : Except RenderError String := do
  return "VARCHAR(" ++ (← renderInteger (if width = 0 then usual else width)) ++ ")"

def columnType (dialect : Dialect) (field : FieldSpec) : Except RenderError String :=
  match field.sqlType with
  | .string => varchar stringWidth field.width
  | .longString => .ok "TEXT"
  | .char => .ok "CHAR"
  | .boolean => .ok dialect.typeNames.boolean
  | .date => .ok dialect.typeNames.date
  | .byte => .ok dialect.typeNames.byte
  | .byteArray | .serializedObject => .ok dialect.typeNames.byteArray
  | .short => .ok "SMALLINT"
  | .int => .ok "INTEGER"
  | .long => .ok (if field.isGeneratedId then dialect.typeNames.generatedLong else "BIGINT")
  | .float => .ok "FLOAT"
  | .double => .ok "DOUBLE PRECISION"
  | .decimal => .ok "NUMERIC"
  | .uuid => varchar uuidWidth field.width

/-! ## Pagination -/

def limitClause (dialect : Dialect) (limit : Int) : Except RenderError String := do
  return dialect.limitKeyword ++ " " ++ (← renderInteger limit) ++ " "

def offsetClause (dialect : Dialect) (offset : Int) : Except RenderError String := do
  if dialect.capabilities.supportsOffset then
    return "OFFSET " ++ (← renderInteger offset) ++ " "
  else .error (.unsupported dialect.name .offset)

end Dialect

end SqlDialects
