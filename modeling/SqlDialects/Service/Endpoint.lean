import SqlDialects.Ddl.Table
import SqlDialects.Registry
import SqlDialects.Schema.Loader
import SqlDialects.Service.Form
import SqlDialects.Settings

/-!
# Endpoints

What the endpoints answer, in the terms of the library.
-/

namespace SqlDialects.Service

inductive Refusal where
  | noDialect
  | unknownDialect (error : UnsupportedDialect)
  | rendering (error : RenderError)
  | schema (fault : SchemaFault)

/-- The dialect that a request names, or else the default one.  The empty name
stands for no name in a request, not in the settings. -/
def chosenDialect (settings : Settings) (name : Option Text.Points) : Except Refusal Dialect :=
  match (name.filter fun name => name ≠ ("" : Text.Points)).or settings.defaultDialect with
  | none => .error .noDialect
  | some name => (Registry.builtin.get name).mapError .unknownDialect

def createTable (settings : Settings) (form : CreateTableForm) :
    Except Refusal CreateTablePlan := do
  let dialect ← chosenDialect settings form.dialect
  (dialect.createTable form.table form.ifNotExists).mapError .rendering

def createSchema (settings : Settings) (form : SchemaForm) :
    Except Refusal (Dialect × List CreateTablePlan) := do
  let dialect ← chosenDialect settings form.dialect
  let tables ← (Schema.loadText {} "<request>" form.document).2.mapError .schema
  let plans ← tables.mapM fun table =>
    (dialect.createTable table form.ifNotExists).mapError .rendering
  return (dialect, plans)

def select (settings : Settings) (form : SelectForm) : Except Refusal (Dialect × Text.Points) := do
  let dialect ← chosenDialect settings form.dialect
  let statement ← (dialect.select form.selection).mapError .rendering
  return (dialect, statement)

def allDialects : List Dialect :=
  Registry.builtin.available.filterMap fun name => (Registry.builtin.get (.ofString name)).toOption

def describeDialect (name : String) : Except Refusal Dialect :=
  (Registry.builtin.get name).mapError .unknownDialect

def resolveUrl (form : ResolveForm) : Except Refusal Dialect :=
  (Registry.builtin.forUrl form.url).mapError .unknownDialect

end SqlDialects.Service
