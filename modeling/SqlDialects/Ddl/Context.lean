import SqlDialects.RenderError

/-!
# The context of table creation

While the columns of a table are rendered, statements around its creation and
clauses after its columns are collected on the side.
-/

namespace SqlDialects

open Text (Points)

/-- What has been collected so far.  The statements before, the creation itself,
the statements after and the queries after run in this order; the additional
arguments stand in the creation after the columns. -/
structure DdlContext where
  tableName : String
  statementsBefore : List Points := []
  statementsAfter : List Points := []
  additionalArgs : List Points := []
  queriesAfter : List Points := []
deriving DecidableEq, Repr

/-- A rendering step.  What a step has collected stays when it fails. -/
abbrev Ddl (α : Type) := ExceptT RenderError (StateM DdlContext) α

namespace Ddl

def addBefore (statement : Points) : Ddl Unit :=
  modify fun context =>
    { context with statementsBefore := context.statementsBefore ++ [statement] }

def addAfter (statement : Points) : Ddl Unit :=
  modify fun context =>
    { context with statementsAfter := context.statementsAfter ++ [statement] }

def addArgument (argument : Points) : Ddl Unit :=
  modify fun context =>
    { context with additionalArgs := context.additionalArgs ++ [argument] }

def runIn {α : Type} (step : Ddl α) (context : DdlContext) : Except RenderError α × DdlContext :=
  StateT.run (ExceptT.run step) context

end Ddl

end SqlDialects
