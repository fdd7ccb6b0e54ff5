import SqlDialects.Ddl.Column
import SqlDialects.LogRecord
import SqlDialects.Table

/-!
# Creating and dropping tables

The statements that create or drop a table, in the order in which they run.
-/

namespace SqlDialects

open Text (Points)

structure CreateTablePlan where
  tableName : String
  createTable : Points
  statementsBefore : List Points := []
  statementsAfter : List Points := []
  queriesAfter : List Points := []
deriving DecidableEq, Repr

def CreateTablePlan.statements (plan : CreateTablePlan) : List Points :=
  plan.statementsBefore ++ plan.createTable :: plan.statementsAfter ++ plan.queriesAfter

namespace Dialect

def columnDefinitions (dialect : Dialect) (fields : List Field) : Ddl (List Points) :=
  fields.mapM fun field => dialect.columnDefinition field.toFieldSpec

def createTableText (dialect : Dialect) (ifNotExists : Bool) (columns : List Points)
    (context : DdlContext) : Points :=
  let head := if ifNotExists then "CREATE TABLE IF NOT EXISTS " else "CREATE TABLE "
  head ++ dialect.quoteIdentifier context.tableName ++ " ("
    ++ Points.intercalate ", " (columns ++ context.additionalArgs) ++ ")" ++ dialect.tableSuffix

def createTable (dialect : Dialect) (table : Table) (ifNotExists : Bool) :
    Except RenderError CreateTablePlan :=
  if ifNotExists ∧ ¬dialect.capabilities.createIfNotExists then
    .error (.unsupported dialect.name .createIfNotExists)
  else
    match (dialect.columnDefinitions table.fields).runIn { tableName := table.name } with
    | (.error error, _) => .error error
    | (.ok columns, context) => .ok {
        tableName := table.name
        createTable := dialect.createTableText ifNotExists columns context
        statementsBefore := context.statementsBefore
        statementsAfter := context.statementsAfter
        queriesAfter := context.queriesAfter }

def renderedRecord (dialect : Dialect) (plan : CreateTablePlan) : LogRecord where
  level := .debug
  logger := "dialectkit.ddl"
  message :=
    .ofString ("Rendered " ++ dialect.name ++ " table " ++ plan.tableName ++ " ("
      ++ Number.natText plan.statementsBefore.length ++ " before, "
      ++ Number.natText plan.statementsAfter.length ++ " after, "
      ++ Number.natText plan.queriesAfter.length ++ " queries)")

def dropTable (dialect : Dialect) (table : Table) (ifExists : Bool) : List Points :=
  let context :=
    ((table.fields.forM fun field => dialect.dropColumn field.toFieldSpec).runIn
      { tableName := table.name }).2
  let head := if ifExists then "DROP TABLE IF EXISTS " else "DROP TABLE "
  context.statementsBefore ++ (head ++ dialect.quoteIdentifier table.name)
    :: context.statementsAfter

end Dialect

end SqlDialects
