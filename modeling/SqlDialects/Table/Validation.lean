import SqlDialects.Table
import SqlDialects.Field.Validation

/-!
# Reading tables from descriptions
-/

namespace SqlDialects.Table

open Checked

def check (form : ObjectForm) : Value → Checked Table :=
  object form "TableSchema" fun input =>
    (Prod.mk <$> required ["name"] nonemptyText input
        <*> required ["fields"] (nonemptyListOf (Field.check form)) input).andThen
      fun (name, fields) =>
        match ofFields name fields with
        | .ok table => valid table
        | .error fault => broken (.rejected fault.message) input

end SqlDialects.Table
