import SqlDialects.Dialect

/-!
# Selections

A selection reads rows of a single table, with a condition in plain SQL, an
order and a page.
-/

namespace SqlDialects

open Text (Points)

structure SortKey where
  column : Points
  descending : Bool
deriving DecidableEq, Repr

structure Selection where
  table : Points
  columns : List Points := []
  condition : Option Points := none
  orderBy : List SortKey := []
  limit : Option Int := none
  offset : Option Int := none
deriving DecidableEq, Repr

namespace Dialect

def missingFeature? (dialect : Dialect) (limit offset : Option Int) : Option Feature :=
  if limit.isSome ∧ ¬dialect.capabilities.supportsLimit then some .limit
  else if offset.isNone then none
  else if ¬dialect.capabilities.supportsOffset then some .offset
  else if limit.isNone ∧ dialect.capabilities.offsetRequiresLimit then some .offsetWithoutLimit
  else none

def sortText (dialect : Dialect) (key : SortKey) : Points :=
  dialect.quoteIdentifier key.column ++ if key.descending then " DESC" else " ASC"

def columnsText (dialect : Dialect) (columns : List Points) : Points :=
  if columns.isEmpty then "*" else Points.intercalate ", " (columns.map dialect.quoteIdentifier)

def conditionText (condition : Option Points) : Points :=
  match condition with
  | some condition => if condition = "" then "" else " WHERE " ++ condition
  | none => ""

def orderText (dialect : Dialect) (orderBy : List SortKey) : Points :=
  if orderBy.isEmpty then ""
  else " ORDER BY " ++ Points.intercalate ", " (orderBy.map dialect.sortText)

/-- The statement of a selection.  A page that the dialect cannot express is
refused and never dropped. -/
def select (dialect : Dialect) (selection : Selection) : Except RenderError Points :=
  match dialect.missingFeature? selection.limit selection.offset with
  | some feature => .error (.unsupported dialect.name feature)
  | none => do
    let limit ← selection.limit.mapM dialect.limitClause
    let (first, last) :=
      if dialect.capabilities.limitAfterSelect then (limit.getD "", none) else ("", limit)
    let body : Points :=
      "SELECT " ++ first ++ dialect.columnsText selection.columns
        ++ " FROM " ++ dialect.quoteIdentifier selection.table
        ++ conditionText selection.condition ++ dialect.orderText selection.orderBy
        ++ (last.map (" " ++ ·)).getD ""
    let paged ←
      match selection.offset with
      | none => pure body
      | some offset => do
        let separator := if body.toList.getLast? = some (.char ' ') then "" else " "
        pure (body ++ separator ++ (← dialect.offsetClause offset))
    return paged.trimEnd

end Dialect

end SqlDialects
