import SqlDialects.Proofs.Service.Defaults
import SqlDialects.Proofs.Sql.Fragment

/-!
# Schemas and tables

A schema is answered by what its tables are answered one by one: by all of their plans, or by
the refusal of the first table that is refused (`Service.schemaAnswer_agrees`).
-/

namespace SqlDialects

theorem forall₂_of_mapM_eq_ok {α β ε : Type} {f : α → Except ε β} {items : List α}
    {values : List β} (hValues : items.mapM f = .ok values) :
    List.Forall₂ (fun item value => f item = .ok value) items values := by
  induction items generalizing values with
  | nil =>
      obtain rfl : values = [] := by simpa [pure, Except.pure, eq_comm] using hValues
      exact .nil
  | cons item items ih =>
      rw [List.mapM_cons] at hValues
      cases hItem : f item with
      | error fault => simp [hItem, bind, Except.bind] at hValues
      | ok value =>
          cases hItems : items.mapM f with
          | error fault => simp [hItem, hItems, bind, Except.bind] at hValues
          | ok others =>
              obtain rfl : value :: others = values := by
                simpa [hItem, hItems, bind, Except.bind, pure, Except.pure] using hValues
              exact .cons hItem (ih hItems)

theorem Registry.mem_builtin_of_get {name : Text.Points} {dialect : Dialect}
    (hDialect : Registry.builtin.get name = .ok dialect) : dialect ∈ Dialect.builtin := by
  unfold Registry.get at hDialect
  split at hDialect
  · next found hFound =>
    cases hDialect
    exact List.mem_of_find?_eq_some hFound
  · cases hDialect

namespace Service

open Dialect

/-! ## The handlers -/

/-- What is answered to a form for one table. -/
def tableAnswer (settings : Settings) (form : CreateTableForm) : Answer :=
  respond (createTable settings form) planValue

/-- The body of the answer to a form for a schema. -/
def schemaBody (dialect : Dialect) (tables : List Value) : Value :=
  .record [("dialect", .text dialect.name), ("tables", .list tables)]

/-- What is answered to a form for a schema. -/
def schemaAnswer (settings : Settings) (form : SchemaForm) : Answer :=
  respond (createSchema settings form) fun (dialect, plans) =>
    schemaBody dialect (plans.map planValue)

theorem answerEndpoint_createTable (settings : Settings) (request : Request) (body : List UInt8) :
    answerEndpoint settings request body .createTable =
      withForm CreateTableForm.check request body (tableAnswer settings) :=
  rfl

theorem answerEndpoint_schema (settings : Settings) (request : Request) (body : List UInt8) :
    answerEndpoint settings request body .schema =
      withForm SchemaForm.check request body (schemaAnswer settings) :=
  rfl

/-- The form for one of the tables of a schema. -/
def SchemaForm.tableForm (form : SchemaForm) (table : Table) : CreateTableForm :=
  ⟨form.dialect, table, form.ifNotExists⟩

def Succeeds (answer : Answer) : Prop :=
  ∃ body, answer = .ok (success body)

/-- The body for a table lists its statements in the order in which they run. -/
def ListsStatements (body : Value) : Prop :=
  ∃ before create after queries,
    body.get? "statements_before" = some (.texts before) ∧
      body.get? "create_table" = some (.ofPoints create) ∧
      body.get? "statements_after" = some (.texts after) ∧
      body.get? "queries_after" = some (.texts queries) ∧
      body.get? "statements" = some (.texts (before ++ [create] ++ after ++ queries))

theorem listsStatements_planValue (plan : CreateTablePlan) : ListsStatements (planValue plan) := by
  refine ⟨plan.statementsBefore, plan.createTable, plan.statementsAfter, plan.queriesAfter, rfl,
    rfl, rfl, rfl, ?_⟩
  have hOrder : plan.statements = plan.statementsBefore ++ [plan.createTable] ++
      plan.statementsAfter ++ plan.queriesAfter := by
    simp [CreateTablePlan.statements]
  rw [← hOrder]
  rfl

theorem not_succeeds_refusal (reason : Refusal) : ¬Succeeds (refusal reason) := by
  rintro ⟨body, hAnswer⟩
  unfold refusal at hAnswer
  split at hAnswer
  · cases hAnswer
  · cases hAnswer
  · split at hAnswer <;> cases hAnswer
  · split at hAnswer <;> cases hAnswer

theorem succeeds_respond_iff {α : Type} {result : Except Refusal α} {shown : α → Value} :
    Succeeds (respond result shown) ↔ ∃ value, result = .ok value := by
  cases result with
  | ok value => exact iff_of_true ⟨_, rfl⟩ ⟨value, rfl⟩
  | error reason => exact iff_of_false (not_succeeds_refusal reason) (by simp)

section

variable {settings : Settings} {form : SchemaForm} {tables : List Table} {dialect : Dialect}

/-! ## Dialects -/

theorem mem_builtin_of_chosenDialect {name : Option Text.Points}
    (hChosen : chosenDialect settings name = .ok dialect) : dialect ∈ builtin := by
  unfold chosenDialect at hChosen
  split at hChosen
  · cases hChosen
  · next found _ =>
    cases hFound : Registry.builtin.get found with
    | error fault => simp [hFound, Except.mapError] at hChosen
    | ok other =>
        obtain rfl : other = dialect := by simpa [hFound, Except.mapError] using hChosen
        exact Registry.mem_builtin_of_get hFound

theorem refusal_of_chosenDialect {name : Option Text.Points} {reason : Refusal}
    (hChosen : chosenDialect settings name = .error reason) :
    ∃ status detail, (status = 404 ∨ status = 422) ∧
      refusal reason = .ok (.refusing status detail) := by
  unfold chosenDialect at hChosen
  split at hChosen
  · cases hChosen
    exact ⟨422, _, .inr rfl, rfl⟩
  · next found _ =>
    cases hFound : Registry.builtin.get found with
    | error fault =>
        obtain rfl : Refusal.unknownDialect fault = reason := by
          simpa [hFound, Except.mapError] using hChosen
        exact ⟨404, _, .inl rfl, rfl⟩
    | ok other => simp [hFound, Except.mapError] at hChosen

/-! ## Tables -/

/-- The plan of one table or why there is none. -/
def planOf (dialect : Dialect) (form : SchemaForm) (table : Table) :
    Except Refusal CreateTablePlan :=
  (dialect.createTable table form.ifNotExists).mapError .rendering

theorem tableAnswer_of_chosen (hChosen : chosenDialect settings form.dialect = .ok dialect)
    (table : Table) :
    tableAnswer settings (form.tableForm table) =
      respond (planOf dialect form table) planValue := by
  rw [tableAnswer, createTable, SchemaForm.tableForm, hChosen]
  rfl

theorem createSchema_of_chosen (hChosen : chosenDialect settings form.dialect = .ok dialect)
    (hTables : (Schema.loadText {} "<request>" form.document).2 = .ok tables) :
    createSchema settings form =
      (tables.mapM (planOf dialect form)).map fun plans => (dialect, plans) := by
  rw [createSchema, hChosen, hTables]
  rfl

theorem planOf_eq_error {table : Table} {reason : Refusal}
    (hReason : planOf dialect form table = .error reason) :
    ∃ error, dialect.createTable table form.ifNotExists = .error error ∧
      reason = .rendering error := by
  unfold planOf at hReason
  cases hTable : dialect.createTable table form.ifNotExists with
  | ok plan => simp [hTable, Except.mapError] at hReason
  | error error => exact ⟨error, rfl, by simpa [hTable, Except.mapError, eq_comm] using hReason⟩

theorem refusal_of_createTable (hBuiltin : dialect ∈ builtin) {table : Table}
    {ifNotExists : Bool} (hDefaults : ∀ field ∈ table.fields, HasFormedDefault field.toFieldSpec)
    (hWidths : ∀ field ∈ table.fields, field.width < Nat.pow 10 Number.maxDigits)
    {error : RenderError} (hError : dialect.createTable table ifNotExists = .error error) :
    refusal (.rendering error) = .ok (.refusing 422 (.ofPoints error.message)) := by
  by_cases hHead : ifNotExists = true → dialect.capabilities.createIfNotExists = true
  · have hWritable : ∀ field ∈ table.fields, Number.isWritable field.width = true :=
      fun field hField => Number.isWritable_of_natAbs_lt Number.maxDigits (hWidths field hField)
        (Nat.le_refl _)
    obtain ⟨before, field, after, hFields, -, hFails⟩ :=
      (createTable_eq_error_iff error hBuiltin hHead hWritable).1 hError
    refine refusal_rendering hFails.isOfField fun hLeaks => ?_
    cases hFails with
    | id => cases hLeaks
    | default hRejects =>
        obtain ⟨literal, hLiteral, hParsed⟩ := hRejects
        have hFormed := hDefaults field (by simp [hFields]) literal hLiteral
        rw [leaks_ofDefault_iff hParsed, hFormed] at hLeaks
        cases hLeaks
  · have hUnknown : ifNotExists = true ∧ ¬dialect.capabilities.createIfNotExists = true := by
      simpa using hHead
    rw [Dialect.createTable, if_pos hUnknown] at hError
    cases hError
    rfl

/-! ## The theorem -/

/-- The answer for a schema and those for its tables, with the same dialect and head. -/
structure AgreesWithTables (settings : Settings) (form : SchemaForm) (tables : List Table) :
    Prop where
  unresolved : ∀ reason, chosenDialect settings form.dialect = .error reason →
    ∃ status detail, (status = 404 ∨ status = 422) ∧
      schemaAnswer settings form = .ok (.refusing status detail) ∧
      ∀ table, tableAnswer settings (form.tableForm table) = .ok (.refusing status detail)
  succeeds_iff : Succeeds (schemaAnswer settings form) ↔
    (∃ dialect, chosenDialect settings form.dialect = .ok dialect) ∧
      ∀ table ∈ tables, Succeeds (tableAnswer settings (form.tableForm table))
  bodies : Succeeds (schemaAnswer settings form) →
    ∃ dialect bodies, chosenDialect settings form.dialect = .ok dialect ∧
      schemaAnswer settings form = .ok (success (schemaBody dialect bodies)) ∧
      List.Forall₂ (fun table body =>
        tableAnswer settings (form.tableForm table) = .ok (success body) ∧ ListsStatements body)
        tables bodies
  refused : ∀ dialect, chosenDialect settings form.dialect = .ok dialect →
    (∃ table ∈ tables, ¬Succeeds (tableAnswer settings (form.tableForm table))) →
      ∃ before table after detail, tables = before ++ table :: after ∧
        (∀ other ∈ before, Succeeds (tableAnswer settings (form.tableForm other))) ∧
        tableAnswer settings (form.tableForm table) = .ok (.refusing 422 detail) ∧
        schemaAnswer settings form = .ok (.refusing 422 detail)

theorem agreesWithTables_of_error {reason : Refusal}
    (hChosen : chosenDialect settings form.dialect = .error reason) (tables : List Table) :
    AgreesWithTables settings form tables := by
  obtain ⟨status, detail, hStatus, hRefusal⟩ := refusal_of_chosenDialect hChosen
  have hSchema : schemaAnswer settings form = refusal reason := by
    rw [schemaAnswer, createSchema, hChosen]
    rfl
  have hTable (table : Table) : tableAnswer settings (form.tableForm table) = refusal reason := by
    rw [tableAnswer, createTable, SchemaForm.tableForm, hChosen]
    rfl
  have hNot : ¬Succeeds (schemaAnswer settings form) := by
    rw [hSchema]
    exact not_succeeds_refusal reason
  constructor
  case unresolved =>
    rintro _ -
    exact ⟨status, detail, hStatus, hSchema.trans hRefusal, fun table =>
      (hTable table).trans hRefusal⟩
  case succeeds_iff => simp [hNot, hChosen]
  case bodies => exact fun hSucceeds => absurd hSucceeds hNot
  case refused => simp [hChosen]

theorem agreesWithTables_of_plans (hChosen : chosenDialect settings form.dialect = .ok dialect)
    (hTables : (Schema.loadText {} "<request>" form.document).2 = .ok tables)
    {plans : List CreateTablePlan} (hPlans : tables.mapM (planOf dialect form) = .ok plans) :
    AgreesWithTables settings form tables := by
  have hSchema : schemaAnswer settings form =
      .ok (success (schemaBody dialect (plans.map planValue))) := by
    rw [schemaAnswer, createSchema_of_chosen hChosen hTables, hPlans]
    rfl
  have hEach := forall₂_of_mapM_eq_ok hPlans
  have hAll : ∀ table ∈ tables, Succeeds (tableAnswer settings (form.tableForm table)) := by
    refine Sql.forall_of_forall₂ hEach.flip fun plan table hPlan => ?_
    rw [tableAnswer_of_chosen hChosen, succeeds_respond_iff]
    exact ⟨plan, hPlan⟩
  constructor
  case unresolved => simp [hChosen]
  case succeeds_iff => exact iff_of_true ⟨_, hSchema⟩ ⟨⟨dialect, hChosen⟩, hAll⟩
  case bodies =>
    refine fun _ => ⟨dialect, plans.map planValue, hChosen, hSchema, ?_⟩
    rw [List.forall₂_map_right_iff]
    refine hEach.imp fun table plan hPlan => ⟨?_, listsStatements_planValue plan⟩
    rw [tableAnswer_of_chosen hChosen, hPlan]
    rfl
  case refused =>
    rintro _ - ⟨table, hTable, hNot⟩
    exact absurd (hAll table hTable) hNot

theorem agreesWithTables_of_refused (hChosen : chosenDialect settings form.dialect = .ok dialect)
    (hTables : (Schema.loadText {} "<request>" form.document).2 = .ok tables)
    (hDefaults : ∀ table ∈ tables, ∀ field ∈ table.fields, HasFormedDefault field.toFieldSpec)
    (hWidths : ∀ table ∈ tables, ∀ field ∈ table.fields,
      field.width < Nat.pow 10 Number.maxDigits)
    {reason : Refusal} (hReason : tables.mapM (planOf dialect form) = .error reason) :
    AgreesWithTables settings form tables := by
  obtain ⟨before, table, after, hSplit, hBefore, hTable⟩ := mapM_eq_error_iff.1 hReason
  obtain ⟨error, hError, rfl⟩ := planOf_eq_error hTable
  have hMem : table ∈ tables := by simp [hSplit]
  have hRefusal := refusal_of_createTable (mem_builtin_of_chosenDialect hChosen)
    (hDefaults table hMem) (hWidths table hMem) hError
  have hSchema : schemaAnswer settings form = refusal (.rendering error) := by
    rw [schemaAnswer, createSchema_of_chosen hChosen hTables, hReason]
    rfl
  have hFirst : tableAnswer settings (form.tableForm table) = refusal (.rendering error) := by
    rw [tableAnswer_of_chosen hChosen, hTable]
    rfl
  have hNot : ¬Succeeds (schemaAnswer settings form) := by
    rw [hSchema]
    exact not_succeeds_refusal _
  constructor
  case unresolved => simp [hChosen]
  case succeeds_iff =>
    refine iff_of_false hNot fun hAll => ?_
    have hSucceeds := hAll.2 table hMem
    rw [hFirst] at hSucceeds
    exact not_succeeds_refusal _ hSucceeds
  case bodies => exact fun hSucceeds => absurd hSucceeds hNot
  case refused =>
    refine fun _ _ _ => ⟨before, table, after, _, hSplit, fun other hOther => ?_,
      hFirst.trans hRefusal, hSchema.trans hRefusal⟩
    rw [tableAnswer_of_chosen hChosen, succeeds_respond_iff]
    exact hBefore other hOther

/-- If a document has tables whose defaults are well-formed and whose widths can be written, it is
answered by what its tables are answered one by one. -/
theorem schemaAnswer_agrees
    (hTables : (Schema.loadText {} "<request>" form.document).2 = .ok tables)
    (hDefaults : ∀ table ∈ tables, ∀ field ∈ table.fields, HasFormedDefault field.toFieldSpec)
    (hWidths : ∀ table ∈ tables, ∀ field ∈ table.fields,
      field.width < Nat.pow 10 Number.maxDigits) :
    AgreesWithTables settings form tables := by
  cases hChosen : chosenDialect settings form.dialect with
  | error reason => exact agreesWithTables_of_error hChosen tables
  | ok dialect =>
      cases hPlans : tables.mapM (planOf dialect form) with
      | ok plans => exact agreesWithTables_of_plans hChosen hTables hPlans
      | error reason => exact agreesWithTables_of_refused hChosen hTables hDefaults hWidths hPlans

end

/-- A table for every dialect, and one that not every dialect creates. -/
def pairForm : SchemaForm where
  dialect := some "sqlite"
  document := "tables:\n" ++
    "- \x7bname: t, fields: [\x7bname: a, type: int\x7d]\x7d\n" ++
    "- \x7bname: u, fields: [\x7bname: b, type: short, generatedId: true\x7d]\x7d\n"
  ifNotExists := true

theorem schemaAnswer_agrees_pairForm :
    ∃ tables, (Schema.loadText {} "<request>" pairForm.document).2 = .ok tables ∧
      tables.length = 2 ∧ AgreesWithTables {} pairForm tables := by
  have hParts : (Schema.loadText {} "<request>" pairForm.document).2.toOption.map (fun tables =>
      (tables.length, decide (∀ table ∈ tables, ∀ field ∈ table.fields,
        field.default = none ∧ field.width = 0))) = some (2, true) := by decide +kernel
  obtain ⟨tables, hLoaded, hPair⟩ := Option.map_eq_some_iff.1 hParts
  obtain ⟨hTwo, hFields⟩ := Prod.mk.inj hPair
  have hPlain := of_decide_eq_true hFields
  have hTables : (Schema.loadText {} "<request>" pairForm.document).2 = .ok tables := by
    revert hLoaded
    cases (Schema.loadText {} "<request>" pairForm.document).2 <;> simp [Except.toOption]
  refine ⟨tables, hTables, hTwo, schemaAnswer_agrees hTables ?_ ?_⟩
  · intro table hTable field hField literal hLiteral
    simp [(hPlain table hTable field hField).1] at hLiteral
  · intro table hTable field hField
    rw [(hPlain table hTable field hField).2]
    -- The largest number of digits is not computed with.
    generalize Number.maxDigits = most
    exact Nat.pow_pos (by decide)

end Service

end SqlDialects
