import Mathlib.Data.List.Forall2
import SqlDialects.Ddl.Table

/-!
# What rendering a column collects

The definition of a column is a text and an addition to the context.  Both depend
on the dialect, the name of the table and the field alone, and a definition that
fails adds nothing (`columnDefinition_runIn`).  A plan therefore joins what the
fields contribute one by one (`createTable_eq_ok_iff`).
-/

namespace SqlDialects

open Text (Points)

namespace Ddl

/-- The outcome of a step that changes the context only when it succeeds. -/
def settle {α : Type} (result : Except RenderError α) (before after : DdlContext) :
    Except RenderError α × DdlContext :=
  match result with
  | .ok value => (.ok value, after)
  | .error error => (.error error, before)

@[simp] theorem runIn_pure {α : Type} (value : α) (context : DdlContext) :
    (pure value : Ddl α).runIn context = (.ok value, context) := rfl

@[simp] theorem runIn_throw {α : Type} (error : RenderError) (context : DdlContext) :
    (throw error : Ddl α).runIn context = (.error error, context) := rfl

@[simp] theorem runIn_get (context : DdlContext) :
    (get : Ddl DdlContext).runIn context = (.ok context, context) := rfl

@[simp] theorem runIn_addBefore (statement : Points) (context : DdlContext) :
    (addBefore statement).runIn context =
      (.ok (), { context with statementsBefore := context.statementsBefore ++ [statement] }) := rfl

@[simp] theorem runIn_addAfter (statement : Points) (context : DdlContext) :
    (addAfter statement).runIn context =
      (.ok (), { context with statementsAfter := context.statementsAfter ++ [statement] }) := rfl

@[simp] theorem runIn_addArgument (argument : Points) (context : DdlContext) :
    (addArgument argument).runIn context =
      (.ok (), { context with additionalArgs := context.additionalArgs ++ [argument] }) := rfl

theorem runIn_bind {α β : Type} (step : Ddl α) (next : α → Ddl β) (context : DdlContext) :
    (step >>= next).runIn context =
      match step.runIn context with
      | (.ok value, context) => (next value).runIn context
      | (.error error, context) => (.error error, context) := by
  simp only [runIn, ExceptT.run, bind, ExceptT.bind, ExceptT.mk, StateT.run, StateT.bind]
  cases step context with
  | mk result context => cases result <;> rfl

@[simp] theorem runIn_map {α β : Type} (f : α → β) (step : Ddl α) (context : DdlContext) :
    (f <$> step).runIn context =
      match step.runIn context with
      | (.ok value, context) => (.ok (f value), context)
      | (.error error, context) => (.error error, context) := by
  rw [← bind_pure_comp, runIn_bind]
  rfl

@[simp] theorem runIn_liftM {α : Type} (result : Except RenderError α) (context : DdlContext) :
    (liftM result : Ddl α).runIn context = (result, context) := by
  cases result <;> rfl

end Ddl

namespace Dialect

/-! ## Contributions of a field -/

def createdSequence (dialect : Dialect) (tableName : String) (field : FieldSpec) : Points :=
  match field.generatedIdSequence with
  | some sequence =>
    if dialect.capabilities.generatedIdSequence then sequence else sequenceName tableName field
  | none => sequenceName tableName field

/-- Whether a field asks for a sequence of its own by a dialect that has none. -/
def lacksSequence (dialect : Dialect) (field : FieldSpec) : Bool :=
  field.generatedIdSequence.isSome && dialect.capabilities.generatedIdSequence
    && dialect.idGeneration != .sequence

def generationText (dialect : Dialect) (tableName : String) (field : FieldSpec) :
    Except RenderError Points :=
  if dialect.lacksSequence field then .error (.unsupported dialect.name .generatedIdSequences)
  else
    match dialect.idGeneration with
    | .none => .error (.unsupported dialect.name .generatedIds)
    | .sequence =>
      let sequence := dialect.quoteIdentifier (dialect.createdSequence tableName field)
      .ok ("DEFAULT NEXTVAL(" ++ quoteLiteral sequence ++ ")")
    | .autoIncrement => .ok "AUTO_INCREMENT"
    | .identity => .ok "IDENTITY"
    | .inlineAutoincrement =>
      if field.sqlType = .int ∨ field.sqlType = .long then .ok "PRIMARY KEY AUTOINCREMENT"
      else .error (.unsupported dialect.name (.generatedIdOfType field.sqlType))

def identityText (dialect : Dialect) (tableName : String) (field : FieldSpec) :
    Except RenderError Points :=
  if field.isGeneratedId then dialect.generationText tableName field else .ok ""

def constraintText (field : FieldSpec) : String :=
  if field.isGeneratedId || field.nullable then "" else "NOT NULL"

def defaultText (dialect : Dialect) (field : FieldSpec) : Except RenderError Points :=
  if field.default.isSome then dialect.defaultClause field else .ok ""

def columnText (dialect : Dialect) (tableName : String) (field : FieldSpec) :
    Except RenderError Points := do
  let columnType ← dialect.columnType field
  let default ← dialect.defaultText field
  let identity ← dialect.identityText tableName field
  return joinWords
    [dialect.quoteIdentifier field.column, columnType, default, identity, constraintText field]

def sequenceStatements (dialect : Dialect) (tableName : String) (field : FieldSpec) :
    List Points :=
  if field.isGeneratedId ∧ dialect.idGeneration = .sequence then
    ["CREATE SEQUENCE " ++ dialect.quoteIdentifier (dialect.createdSequence tableName field)]
  else []

def insertStatements (dialect : Dialect) (tableName : String) (field : FieldSpec) :
    List Points :=
  if field.isGeneratedId ∧ dialect.idGeneration = .identity ∧ field.allowGeneratedIdInsert then
    ["SET IDENTITY_INSERT " ++ dialect.quoteIdentifier tableName ++ " ON"]
  else []

def keyArguments (dialect : Dialect) (field : FieldSpec) : List Points :=
  if field.isId ∧ ¬(field.isGeneratedId ∧ dialect.idGeneration = .inlineAutoincrement) then
    ["PRIMARY KEY (" ++ dialect.quoteIdentifier field.column ++ ")"]
  else []

def uniqueArguments (dialect : Dialect) (field : FieldSpec) : List Points :=
  if ¬field.isGeneratedId ∧ field.unique then
    ["UNIQUE (" ++ dialect.quoteIdentifier field.column ++ ")"]
  else []

def columnArguments (dialect : Dialect) (field : FieldSpec) : List Points :=
  dialect.keyArguments field ++ dialect.uniqueArguments field

def collect (dialect : Dialect) (context : DdlContext) (field : FieldSpec) : DdlContext :=
  { context with
    statementsBefore :=
      context.statementsBefore ++ dialect.sequenceStatements context.tableName field
    statementsAfter := context.statementsAfter ++ dialect.insertStatements context.tableName field
    additionalArgs := context.additionalArgs ++ dialect.columnArguments field }

/-! ## One column -/

theorem joinWords_single {word : Points} (hWord : word ≠ "") : joinWords [word, ""] = word := by
  simp [joinWords, hWord]

@[simp] theorem idClause_runIn (dialect : Dialect) (field : FieldSpec) (context : DdlContext) :
    (dialect.idClause field).runIn context =
      (.ok "", { context with
        additionalArgs := context.additionalArgs ++
          ["PRIMARY KEY (" ++ dialect.quoteIdentifier field.column ++ ")"] }) := rfl

private theorem nextval_ne_empty (literal : Points) :
    "DEFAULT NEXTVAL(" ++ literal ++ ")" ≠ Points.ofString "" := by
  simp [← Points.toList_inj]

theorem sequenceClause_runIn (dialect : Dialect) (field : FieldSpec) (sequence : Points)
    (context : DdlContext) (hSequence : dialect.idGeneration = .sequence) :
    (dialect.sequenceClause field sequence).runIn context =
      (.ok ("DEFAULT NEXTVAL(" ++ quoteLiteral (dialect.quoteIdentifier sequence) ++ ")"),
        { context with
          statementsBefore := context.statementsBefore ++
            ["CREATE SEQUENCE " ++ dialect.quoteIdentifier sequence]
          additionalArgs := context.additionalArgs ++
            ["PRIMARY KEY (" ++ dialect.quoteIdentifier field.column ++ ")"] }) := by
  simp [sequenceClause, hSequence, Ddl.runIn_bind, joinWords_single (nextval_ne_empty _)]

theorem isId_of_isGeneratedId {field : FieldSpec} (hGenerated : field.isGeneratedId = true) :
    field.isId = true := by
  simp [FieldSpec.isId, hGenerated]

theorem generatedIdClause_runIn (dialect : Dialect) (field : FieldSpec) (context : DdlContext)
    (hGenerated : field.isGeneratedId = true)
    (hName : field.generatedIdSequence = none ∨
      dialect.capabilities.generatedIdSequence = false) :
    (dialect.generatedIdClause field).runIn context =
      Ddl.settle (dialect.generationText context.tableName field) context
        { context with
          statementsBefore :=
            context.statementsBefore ++ dialect.sequenceStatements context.tableName field
          statementsAfter :=
            context.statementsAfter ++ dialect.insertStatements context.tableName field
          additionalArgs := context.additionalArgs ++ dialect.keyArguments field } := by
  have hLacks : dialect.lacksSequence field = false := by
    rcases hName with hName | hName <;> simp [lacksSequence, hName]
  have hCreated : dialect.createdSequence context.tableName field =
      sequenceName context.tableName field := by
    rcases hName with hName | hName
    · simp [createdSequence, hName]
    · cases hSequence : field.generatedIdSequence <;> simp [createdSequence, hName, hSequence]
  have hId := isId_of_isGeneratedId hGenerated
  cases hGeneration : dialect.idGeneration with
  | none => simp [generatedIdClause, generationText, hLacks, hGeneration, Ddl.settle]
  | sequence =>
      simp [generatedIdClause, generationText, hLacks, hGeneration, Ddl.settle, Ddl.runIn_bind,
        sequenceClause_runIn, hCreated, sequenceStatements, insertStatements, keyArguments, hId,
        hGenerated]
  | autoIncrement =>
      simp [generatedIdClause, generationText, hLacks, hGeneration, Ddl.settle,
        sequenceStatements, insertStatements, keyArguments, hId, joinWords_single]
  | identity =>
      by_cases hInsert : field.allowGeneratedIdInsert = true <;>
        simp [generatedIdClause, generationText, hLacks, hGeneration, Ddl.settle, Ddl.runIn_bind,
          sequenceStatements, insertStatements, keyArguments, hId, hGenerated, hInsert,
          joinWords_single]
  | inlineAutoincrement =>
      by_cases hType : field.sqlType = .int ∨ field.sqlType = .long <;>
        simp [generatedIdClause, generationText, hLacks, hGeneration, Ddl.settle,
          sequenceStatements, insertStatements, keyArguments, hGenerated, hType]

/-- The clause of an id in every case, the failing ones included. -/
theorem identityClause_runIn (dialect : Dialect) (field : FieldSpec) (context : DdlContext) :
    (dialect.identityClause field).runIn context =
      Ddl.settle (dialect.identityText context.tableName field) context
        { context with
          statementsBefore :=
            context.statementsBefore ++ dialect.sequenceStatements context.tableName field
          statementsAfter :=
            context.statementsAfter ++ dialect.insertStatements context.tableName field
          additionalArgs := context.additionalArgs ++ dialect.keyArguments field } := by
  cases hSequence : field.generatedIdSequence with
  | some sequence =>
      have hGenerated : field.isGeneratedId = true := by
        simp [FieldSpec.isGeneratedId, hSequence]
      by_cases hCapable : dialect.capabilities.generatedIdSequence = true
      · by_cases hGeneration : dialect.idGeneration = .sequence
        · simp [identityClause, identityText, generationText, hSequence, hCapable, hGenerated,
            lacksSequence, hGeneration, Ddl.settle, sequenceClause_runIn, createdSequence,
            sequenceStatements, insertStatements, keyArguments, isId_of_isGeneratedId hGenerated]
        · simp [identityClause, identityText, generationText, hSequence, hCapable, hGenerated,
            lacksSequence, hGeneration, Ddl.settle, sequenceClause]
      · have hIncapable : dialect.capabilities.generatedIdSequence = false := by
          simpa using hCapable
        simp only [identityClause, identityText, hSequence, hGenerated, hIncapable, if_true,
          Bool.false_eq_true, if_false]
        exact generatedIdClause_runIn dialect field context hGenerated (Or.inr hIncapable)
  | none =>
      by_cases hGenerated : field.isGeneratedId = true
      · simp only [identityClause, identityText, hSequence, hGenerated, if_true]
        exact generatedIdClause_runIn dialect field context hGenerated (Or.inl hSequence)
      · by_cases hId : field.id = true <;>
          simp [identityClause, identityText, hSequence, hGenerated, hId, FieldSpec.isId,
            Ddl.settle, sequenceStatements, insertStatements, keyArguments]

theorem constraintClause_runIn (dialect : Dialect) (field : FieldSpec) (context : DdlContext) :
    (dialect.constraintClause field).runIn context =
      (.ok (constraintText field), { context with
        additionalArgs := context.additionalArgs ++ dialect.uniqueArguments field }) := by
  by_cases hGenerated : field.isGeneratedId = true
  · simp [constraintClause, constraintText, uniqueArguments, hGenerated]
  · by_cases hUnique : field.unique = true <;> by_cases hNullable : field.nullable = true <;>
      simp [constraintClause, constraintText, uniqueArguments, hGenerated, hUnique, hNullable]

private theorem liftExcept_runIn (result : Except RenderError Points) (context : DdlContext) :
    (columnDefinition.liftExcept result).runIn context = (result, context) := rfl

/-- A column definition that succeeds appends to the context what its field
contributes; one that fails leaves the context as it was. -/
theorem columnDefinition_runIn (dialect : Dialect) (field : FieldSpec) (context : DdlContext) :
    (dialect.columnDefinition field).runIn context =
      Ddl.settle (dialect.columnText context.tableName field) context
        (dialect.collect context field) := by
  have hDefault (next : Points → Ddl Points) :
      Ddl.runIn (if field.default.isSome then
        columnDefinition.liftExcept (dialect.defaultClause field) >>= next
        else pure (Points.ofString "") >>= next) context =
        match dialect.defaultText field with
        | .ok default => (next default).runIn context
        | .error error => (.error error, context) := by
    by_cases hSome : field.default.isSome = true
    · simp only [hSome, if_true, defaultText, Ddl.runIn_bind, liftExcept_runIn]
      cases dialect.defaultClause field <;> rfl
    · simp [hSome, defaultText]
  rw [columnDefinition, columnText, Ddl.runIn_bind, Ddl.runIn_liftM]
  cases dialect.columnType field with
  | error error => rfl
  | ok columnType =>
      refine (hDefault _).trans ?_
      cases dialect.defaultText field with
      | error error => rfl
      | ok default =>
          simp only [Ddl.runIn_bind, identityClause_runIn, constraintClause_runIn]
          cases dialect.identityText context.tableName field with
          | error error => rfl
          | ok identity =>
              simp only [Ddl.settle, Ddl.runIn_pure, collect, columnArguments, List.append_assoc]
              rfl

theorem columnText_eq_ok_iff {dialect : Dialect} {tableName : String} {field : FieldSpec}
    {text : Points} :
    dialect.columnText tableName field = .ok text ↔
      ∃ typeText default identity, dialect.columnType field = .ok typeText ∧
        dialect.defaultText field = .ok default ∧
        dialect.identityText tableName field = .ok identity ∧
        joinWords [dialect.quoteIdentifier field.column, typeText, default, identity,
          constraintText field] = text := by
  unfold columnText
  cases hType : dialect.columnType field with
  | error error => simp [bind, Except.bind]
  | ok typeText =>
      cases hDefault : dialect.defaultText field with
      | error error => simp [bind, Except.bind]
      | ok default =>
          cases hIdentity : dialect.identityText tableName field with
          | error error => simp [bind, Except.bind]
          | ok identity => simp [bind, Except.bind, pure, Except.pure]

theorem columnText_of_columnDefinition {dialect : Dialect} {field : FieldSpec}
    {context : DdlContext} {text : Points}
    (hText : ((dialect.columnDefinition field).runIn context).1 = .ok text) :
    dialect.columnText context.tableName field = .ok text := by
  rw [columnDefinition_runIn] at hText
  cases hColumn : dialect.columnText context.tableName field with
  | error error => simp [hColumn, Ddl.settle] at hText
  | ok column => simpa [hColumn, Ddl.settle] using hText

/-! ## All columns -/

theorem foldl_collect (dialect : Dialect) (fields : List FieldSpec) (context : DdlContext) :
    fields.foldl dialect.collect context = { context with
      statementsBefore := context.statementsBefore ++
        fields.flatMap (dialect.sequenceStatements context.tableName)
      statementsAfter := context.statementsAfter ++
        fields.flatMap (dialect.insertStatements context.tableName)
      additionalArgs := context.additionalArgs ++ fields.flatMap dialect.columnArguments } := by
  induction fields generalizing context with
  | nil => simp
  | cons field fields ih => simp [ih, collect]

def ColumnTexts (dialect : Dialect) (tableName : String) (fields : List Field)
    (texts : List Points) : Prop :=
  List.Forall₂ (fun field text => dialect.columnText tableName field.toFieldSpec = .ok text)
    fields texts

theorem columnDefinitions_runIn_eq_ok_iff (dialect : Dialect) (fields : List Field)
    (texts : List Points) (context after : DdlContext) :
    (dialect.columnDefinitions fields).runIn context = (.ok texts, after) ↔
      dialect.ColumnTexts context.tableName fields texts ∧
        after = (fields.map Field.toFieldSpec).foldl dialect.collect context := by
  induction fields generalizing texts context with
  | nil =>
      simp [columnDefinitions, ColumnTexts, eq_comm]
  | cons field fields ih =>
      have hOthers (others : List Points) := ih others (dialect.collect context field.toFieldSpec)
      simp only [columnDefinitions] at hOthers ⊢
      rw [List.mapM_cons, Ddl.runIn_bind, columnDefinition_runIn]
      cases hText : dialect.columnText context.tableName field.toFieldSpec with
      | error error => simp [Ddl.settle, ColumnTexts, List.forall₂_cons_left_iff, hText]
      | ok text =>
          -- The later columns are read with the context that the first one leaves, and only
          -- the name of the table counts for their texts.
          have hName : (dialect.collect context field.toFieldSpec).tableName = context.tableName :=
            rfl
          rw [hName] at hOthers
          simp only [Ddl.settle, Ddl.runIn_bind, ColumnTexts, List.forall₂_cons_left_iff, hText,
            List.map_cons, List.foldl_cons, Except.ok.injEq]
          constructor
          · intro hRun
            cases hRest : Ddl.runIn
                (fields.mapM fun field => dialect.columnDefinition field.toFieldSpec)
                (dialect.collect context field.toFieldSpec) with
            | mk result final =>
                rw [hRest] at hRun
                cases result with
                | error error => simp at hRun
                | ok others =>
                    obtain ⟨rfl, rfl⟩ : text :: others = texts ∧ final = after := by
                      simpa using hRun
                    obtain ⟨hTexts, hAfter⟩ := (hOthers others).1 hRest
                    exact ⟨⟨text, others, rfl, hTexts, rfl⟩, hAfter⟩
          · rintro ⟨⟨first, others, rfl, hTexts, rfl⟩, hAfter⟩
            rw [(hOthers others).2 ⟨hTexts, hAfter⟩]
            rfl

theorem createTable_eq_ok_iff (dialect : Dialect) (table : Table) (ifNotExists : Bool)
    (plan : CreateTablePlan) :
    dialect.createTable table ifNotExists = .ok plan ↔
      (ifNotExists = true → dialect.capabilities.createIfNotExists = true) ∧
        ∃ texts, dialect.ColumnTexts table.name table.fields texts ∧
          plan =
            let specs := table.fields.map Field.toFieldSpec
            let context := specs.foldl dialect.collect { tableName := table.name }
            { tableName := table.name
              createTable := dialect.createTableText ifNotExists texts context
              statementsBefore := specs.flatMap (dialect.sequenceStatements table.name)
              statementsAfter := specs.flatMap (dialect.insertStatements table.name)
              queriesAfter := [] } := by
  constructor
  · intro hPlan
    unfold createTable at hPlan
    split at hPlan
    · contradiction
    · next hHead =>
        have hKnown : ifNotExists = true → dialect.capabilities.createIfNotExists = true := by
          simpa using hHead
        split at hPlan
        · contradiction
        · next texts after hRun =>
            obtain ⟨hTexts, rfl⟩ :=
              (dialect.columnDefinitions_runIn_eq_ok_iff table.fields texts _ after).1 hRun
            refine ⟨hKnown, texts, hTexts, ?_⟩
            cases hPlan
            simp [foldl_collect]
  · rintro ⟨hKnown, texts, hTexts, rfl⟩
    have hHead : ¬(ifNotExists = true ∧ ¬dialect.capabilities.createIfNotExists = true) := by
      simpa using hKnown
    have hRun := (dialect.columnDefinitions_runIn_eq_ok_iff table.fields texts
      { tableName := table.name } _).2 ⟨hTexts, rfl⟩
    rw [createTable, if_neg hHead, hRun]
    simp [foldl_collect]

end Dialect

end SqlDialects
