import SqlDialects.Proofs.Ddl.Rendering

/-!
# What one field contributes

A field adds to a table what it adds to an empty one of the same name: the text of its column
and entries of the context.  A table joins these contributions in the order of its fields, and
it fails like the first field that fails (`Dialect.columnDefinition_contributes`).
-/

namespace SqlDialects

open Text (Points)

/-- The text of a column and the entries of the context that come with it. -/
structure Contribution where
  text : Points
  before : List Points
  after : List Points
  arguments : List Points
  queries : List Points

/-- A context with a contribution after what has been collected. -/
def DdlContext.join (context : DdlContext) (added : Contribution) : DdlContext where
  tableName := context.tableName
  statementsBefore := context.statementsBefore ++ added.before
  statementsAfter := context.statementsAfter ++ added.after
  additionalArgs := context.additionalArgs ++ added.arguments
  queriesAfter := context.queriesAfter ++ added.queries

theorem DdlContext.foldl_join (context : DdlContext) (added : List Contribution) :
    added.foldl join context =
      { tableName := context.tableName
        statementsBefore := context.statementsBefore ++ added.flatMap Contribution.before
        statementsAfter := context.statementsAfter ++ added.flatMap Contribution.after
        additionalArgs := context.additionalArgs ++ added.flatMap Contribution.arguments
        queriesAfter := context.queriesAfter ++ added.flatMap Contribution.queries } := by
  induction added generalizing context with
  | nil => simp
  | cons first others ih => simp [ih, join]

namespace Dialect

/-! ## One field -/

/-- What a field adds to a context in which nothing has been collected. -/
def contribution (dialect : Dialect) (tableName : String) (field : FieldSpec) :
    Except RenderError Contribution :=
  match (dialect.columnDefinition field).runIn { tableName := tableName } with
  | (.error error, _) => .error error
  | (.ok text, context) => .ok {
      text := text
      before := context.statementsBefore
      after := context.statementsAfter
      arguments := context.additionalArgs
      queries := context.queriesAfter }

theorem contribution_eq (dialect : Dialect) (tableName : String) (field : FieldSpec) :
    dialect.contribution tableName field =
      (dialect.columnText tableName field).map fun text =>
        { text := text
          before := dialect.sequenceStatements tableName field
          after := dialect.insertStatements tableName field
          arguments := dialect.columnArguments field
          queries := [] } := by
  rw [contribution, columnDefinition_runIn]
  cases dialect.columnText tableName field <;> simp [Ddl.settle, collect, Except.map]

theorem columnDefinition_join (dialect : Dialect) (field : FieldSpec) (context : DdlContext) :
    (dialect.columnDefinition field).runIn context =
      match dialect.contribution context.tableName field with
      | .ok added => (.ok added.text, context.join added)
      | .error error => (.error error, context) := by
  rw [columnDefinition_runIn, contribution_eq]
  cases dialect.columnText context.tableName field <;>
    simp [Ddl.settle, collect, DdlContext.join, Except.map]

/-! ## All fields -/

/-- What the fields of a table contribute, in their order. -/
def contributions (dialect : Dialect) (tableName : String) (fields : List Field) :
    Except RenderError (List Contribution) :=
  fields.mapM fun field => dialect.contribution tableName field.toFieldSpec

theorem contributions_cons (dialect : Dialect) (tableName : String) (field : Field)
    (fields : List Field) :
    dialect.contributions tableName (field :: fields) =
      match dialect.contribution tableName field.toFieldSpec with
      | .ok first => (dialect.contributions tableName fields).map (first :: ·)
      | .error error => .error error := by
  rw [contributions, List.mapM_cons]
  cases dialect.contribution tableName field.toFieldSpec <;> rfl

theorem columnDefinitions_cons_runIn (dialect : Dialect) (field : Field) (fields : List Field)
    (context : DdlContext) :
    (dialect.columnDefinitions (field :: fields)).runIn context =
      match dialect.contribution context.tableName field.toFieldSpec with
      | .ok first =>
        let (texts, after) := (dialect.columnDefinitions fields).runIn (context.join first)
        (texts.map (first.text :: ·), after)
      | .error error => (.error error, context) := by
  simp only [columnDefinitions, List.mapM_cons, Ddl.runIn_bind, columnDefinition_join]
  cases dialect.contribution context.tableName field.toFieldSpec with
  | error error => rfl
  | ok first =>
      dsimp only
      generalize Ddl.runIn _ (context.join first) = run
      rcases run with ⟨_ | _, _⟩ <;> rfl

theorem columnDefinitions_join (dialect : Dialect) (fields : List Field) (context : DdlContext) :
    match dialect.contributions context.tableName fields with
    | .ok added =>
      (dialect.columnDefinitions fields).runIn context =
        (.ok (added.map Contribution.text), added.foldl DdlContext.join context)
    | .error error => ((dialect.columnDefinitions fields).runIn context).1 = .error error := by
  induction fields generalizing context with
  | nil => rfl
  | cons field fields ih =>
      rw [contributions_cons, columnDefinitions_cons_runIn]
      cases dialect.contribution context.tableName field.toFieldSpec with
      | error error => rfl
      | ok first =>
          -- The other columns meet a longer context, which has the same name of a table.
          have hOthers := ih (context.join first)
          simp only [show (context.join first).tableName = context.tableName from rfl] at hOthers
          cases hAdded : dialect.contributions context.tableName fields with
          | ok added =>
              simp only [hAdded] at hOthers
              simp [hOthers, Except.map]
          | error error =>
              simp only [hAdded] at hOthers
              simp [hOthers, Except.map]

/-- The plan of a table to which its fields add some contributions. -/
def joinedPlan (dialect : Dialect) (tableName : String) (ifNotExists : Bool)
    (added : List Contribution) : CreateTablePlan where
  tableName := tableName
  createTable :=
    (if ifNotExists then "CREATE TABLE IF NOT EXISTS " else "CREATE TABLE ")
      ++ dialect.quoteIdentifier tableName ++ " ("
      ++ Points.intercalate ", "
        (added.map Contribution.text ++ added.flatMap Contribution.arguments)
      ++ ")" ++ dialect.tableSuffix
  statementsBefore := added.flatMap Contribution.before
  statementsAfter := added.flatMap Contribution.after
  queriesAfter := added.flatMap Contribution.queries

/-- A dialect that knows the head that is asked for joins what the fields contribute, and
fails like the first field that fails. -/
theorem createTable_join (dialect : Dialect) (table : Table) {ifNotExists : Bool}
    (hHead : ifNotExists = true → dialect.capabilities.createIfNotExists = true) :
    dialect.createTable table ifNotExists =
      (dialect.contributions table.name table.fields).map
        (dialect.joinedPlan table.name ifNotExists) := by
  have hKnown : ¬(ifNotExists = true ∧ ¬dialect.capabilities.createIfNotExists = true) := by
    simpa using hHead
  have hJoin := dialect.columnDefinitions_join table.fields { tableName := table.name }
  rw [createTable, if_neg hKnown]
  cases hAdded : dialect.contributions table.name table.fields with
  | ok added =>
      simp only [hAdded] at hJoin
      rw [hJoin]
      simp [Except.map, joinedPlan, createTableText, DdlContext.foldl_join]
  | error error =>
      simp only [hAdded] at hJoin
      cases hRun : (dialect.columnDefinitions table.fields).runIn { tableName := table.name } with
      | mk result context =>
          rw [hRun] at hJoin
          rw [show result = .error error from hJoin]
          rfl

/-! ## The theorem -/

/-- What the definition of a column adds to a context, and whether it fails, depends on the
dialect, the name of the table and the field, but not on what the context holds; a definition
that fails leaves the context as it is.  So a table that is created joins what each of its
fields contributes alone. -/
theorem columnDefinition_contributes (dialect : Dialect) :
    (∀ (field : FieldSpec) (context : DdlContext),
      (dialect.columnDefinition field).runIn context =
        match dialect.contribution context.tableName field with
        | .ok added => (.ok added.text, context.join added)
        | .error error => (.error error, context)) ∧
      ∀ (table : Table) (ifNotExists : Bool),
        dialect.createTable table ifNotExists =
          if ifNotExists ∧ ¬dialect.capabilities.createIfNotExists then
            .error (.unsupported dialect.name .createIfNotExists)
          else
            (table.fields.mapM fun field =>
              dialect.contribution table.name field.toFieldSpec).map
                (dialect.joinedPlan table.name ifNotExists) := by
  refine ⟨dialect.columnDefinition_join, fun table ifNotExists => ?_⟩
  split
  · next hUnknown => rw [createTable, if_pos hUnknown]
  · next hKnown => exact dialect.createTable_join table (by simpa using hKnown)

end Dialect

end SqlDialects
