import SqlDialects.Proofs.Ddl.Execution

/-!
# Creating and dropping

Dropping a table after its creation removes what the creation made, unless its id names
the empty sequence: the creation makes the sequence with the empty name, but the removal
takes the empty name for none and drops the sequence that is named after the column
(`createTable_dropTable`).
-/

namespace SqlDialects.Dialect

open Sql
open Text (Points)

/-! ## Names of sequences -/

def createdNames (dialect : Dialect) (table : Table) : List Points :=
  table.idField?.toList.flatMap fun field =>
    if field.isGeneratedId ∧ dialect.idGeneration = .sequence then
      [dialect.createdSequence table.name field.toFieldSpec]
    else []

def droppedNames (dialect : Dialect) (table : Table) : List Points :=
  table.idField?.toList.flatMap fun field =>
    if dialect.idGeneration = .sequence ∧ field.isGeneratedId then
      [droppedSequence table.name field.toFieldSpec]
    else []

/-- The tables whose identity columns accept values after the creation. -/
def insertedTables (dialect : Dialect) (table : Table) : List Points :=
  table.idField?.toList.flatMap fun field =>
    if field.isGeneratedId ∧ dialect.idGeneration = .identity ∧ field.allowGeneratedIdInsert then
      [table.name]
    else []

/-- The id of a table takes its values from the sequence with the empty name. -/
def NamesEmptySequence (dialect : Dialect) (table : Table) : Prop :=
  dialect = postgres ∧ ∃ field, table.idField? = some field ∧
    field.generatedIdSequence = some (.ofString "")

theorem sequenceName_ne_empty (tableName : String) (field : FieldSpec) :
    sequenceName tableName field ≠ "" := by
  intro hEmpty
  have hLength := congrArg Points.length hEmpty
  simp [sequenceName, Points.length] at hLength

theorem mem_insertedTables {dialect : Dialect} {table : Table} {name : Points}
    (hName : name ∈ dialect.insertedTables table) : name = table.name := by
  obtain ⟨field, -, hField⟩ := List.mem_flatMap.1 hName
  split at hField
  · exact List.mem_singleton.1 hField
  · cases hField

/-- What is created and what is dropped differ only for the empty name. -/
theorem names_cases {dialect : Dialect} (hBuiltin : dialect ∈ builtin) (table : Table) :
    (¬dialect.NamesEmptySequence table ∧
        dialect.createdNames table = dialect.droppedNames table ∧
        (dialect.createdNames table).length ≤ 1) ∨
      (dialect.NamesEmptySequence table ∧ dialect.createdNames table = [.ofString ""] ∧
        ∃ name : Points, name ≠ "" ∧ dialect.droppedNames table = [name]) := by
  cases hField : table.idField? with
  | none => simp [NamesEmptySequence, createdNames, droppedNames, hField]
  | some field =>
      by_cases hPostgres : dialect = postgres
      · subst hPostgres
        have hGeneration : postgres.idGeneration = .sequence := rfl
        have hCapable : postgres.capabilities.generatedIdSequence = true := rfl
        cases hSequence : field.generatedIdSequence with
        | none =>
            by_cases hGenerated : field.isGeneratedId = true <;>
              simp [NamesEmptySequence, createdNames, droppedNames, hField, hGeneration,
                hGenerated, hSequence, createdSequence, droppedSequence]
        | some sequence =>
            have hGenerated : field.isGeneratedId = true := by
              simp [FieldSpec.isGeneratedId, hSequence]
            by_cases hEmpty : sequence = "" <;>
              simp [NamesEmptySequence, createdNames, droppedNames, hField, hGeneration,
                hGenerated, hSequence, createdSequence, droppedSequence, hCapable, hEmpty,
                sequenceName_ne_empty]
      · have hGeneration : ¬dialect.idGeneration = .sequence := fun hGeneration =>
          hPostgres ((idGeneration_eq_sequence_iff hBuiltin).1 hGeneration)
        simp [NamesEmptySequence, createdNames, droppedNames, hField, hPostgres, hGeneration]

/-! ## Statements of the removal -/

def dropStatements (dialect : Dialect) (tableName : String) (field : FieldSpec) : List Points :=
  if dialect.idGeneration = .sequence ∧ field.isGeneratedId then
    ["DROP SEQUENCE " ++ dialect.quoteIdentifier (droppedSequence tableName field)]
  else []

theorem dropColumn_runIn (dialect : Dialect) (field : FieldSpec) (context : DdlContext) :
    (dialect.dropColumn field).runIn context =
      (.ok (), { context with
        statementsAfter :=
          context.statementsAfter ++ dialect.dropStatements context.tableName field }) := by
  by_cases hDropped : dialect.idGeneration = .sequence ∧ field.isGeneratedId = true
  · simp [dropColumn, dropStatements, hDropped, Ddl.runIn_bind]
  · simp [dropColumn, dropStatements, hDropped]

theorem forM_dropColumn_runIn (dialect : Dialect) (fields : List Field) (context : DdlContext) :
    (forM fields fun field => dialect.dropColumn field.toFieldSpec).runIn context =
      (.ok (), { context with
        statementsAfter := context.statementsAfter ++
          (fields.map Field.toFieldSpec).flatMap
            (dialect.dropStatements context.tableName) }) := by
  induction fields generalizing context with
  | nil => simp
  | cons field fields ih =>
      rw [List.forM_cons, Ddl.runIn_bind, dropColumn_runIn]
      simp [ih]

theorem dropTable_eq (dialect : Dialect) (table : Table) (ifExists : Bool) :
    dialect.dropTable table ifExists =
      ((if ifExists then "DROP TABLE IF EXISTS " else "DROP TABLE ")
          ++ dialect.quoteIdentifier table.name) ::
        (table.fields.map Field.toFieldSpec).flatMap (dialect.dropStatements table.name) := by
  simp [dropTable, forM_dropColumn_runIn]

/-! ## Reading the statements -/

theorem areStatements_map {quote : Char} {render : Points → Points} {make : Points → Statement}
    (hRender : ∀ name, Statement.ofText? quote (render name) = some (make name))
    (names : List Points) : AreStatements quote (names.map render) (names.map make) := by
  rw [AreStatements, List.forall₂_map_left_iff, List.forall₂_map_right_iff]
  exact List.forall₂_same.2 fun name _ => hRender name

section

variable {dialect : Dialect} {table : Table}

theorem flatMap_eq_map {statements : FieldSpec → List Points} {names : Field → List Points}
    {render : Points → Points} (hOnly : ∀ field, statements field ≠ [] → field.isId = true)
    (hNames : ∀ field : Field, statements field.toFieldSpec = (names field).map render) :
    (table.fields.map Field.toFieldSpec).flatMap statements =
      (table.idField?.toList.flatMap names).map render := by
  rw [Table.flatMap_eq_idField hOnly, List.map_flatMap]
  simp only [hNames]

theorem flatMap_sequenceStatements (dialect : Dialect) (table : Table) :
    (table.fields.map Field.toFieldSpec).flatMap (dialect.sequenceStatements table.name) =
      (dialect.createdNames table).map fun name =>
        "CREATE SEQUENCE " ++ dialect.quoteIdentifier name := by
  apply flatMap_eq_map isId_of_sequenceStatements
  intro field
  unfold sequenceStatements
  split <;> rfl

theorem flatMap_insertStatements (dialect : Dialect) (table : Table) :
    (table.fields.map Field.toFieldSpec).flatMap (dialect.insertStatements table.name) =
      (dialect.insertedTables table).map fun name =>
        "SET IDENTITY_INSERT " ++ dialect.quoteIdentifier name ++ " ON" := by
  apply flatMap_eq_map isId_of_insertStatements
  intro field
  unfold insertStatements
  split <;> rfl

theorem isId_of_dropStatements {dialect : Dialect} {tableName : String} (field : FieldSpec)
    (hSome : dialect.dropStatements tableName field ≠ []) : field.isId = true :=
  isId_of_guarded (fun hGuard => hGuard.2) hSome

theorem flatMap_dropStatements (dialect : Dialect) (table : Table) :
    (table.fields.map Field.toFieldSpec).flatMap (dialect.dropStatements table.name) =
      (dialect.droppedNames table).map fun name =>
        "DROP SEQUENCE " ++ dialect.quoteIdentifier name := by
  apply flatMap_eq_map isId_of_dropStatements
  intro field
  unfold dropStatements
  split <;> rfl

theorem areStatements_createTable (hOrdinary : dialect.IsOrdinary) {ifNotExists : Bool}
    {plan : CreateTablePlan} (hPlan : dialect.createTable table ifNotExists = .ok plan) :
    AreStatements dialect.quote plan.statements
      ((dialect.createdNames table).map .createSequence ++
        .createTable ifNotExists table.name ::
          (dialect.insertedTables table).map .insertIdentity) := by
  have hQuote := hOrdinary.quote
  obtain ⟨_, _, _, _, -, hReading, -⟩ := exists_tableReading hOrdinary hPlan
  have hTable := Statement.ofText?_of_reading hReading
  obtain ⟨-, texts, -, rfl⟩ := (dialect.createTable_eq_ok_iff table ifNotExists plan).1 hPlan
  simp only [CreateTablePlan.statements, List.append_nil, flatMap_sequenceStatements,
    flatMap_insertStatements]
  exact List.rel_append
    (areStatements_map (Statement.ofText?_createSequence hQuote) _)
    (.cons hTable (areStatements_map (Statement.ofText?_insertIdentity hQuote) _))

theorem createdSequences_createTable (hOrdinary : dialect.IsOrdinary) {ifNotExists : Bool}
    {plan : CreateTablePlan} (hPlan : dialect.createTable table ifNotExists = .ok plan) :
    createdSequences dialect.quote plan.statements = dialect.createdNames table := by
  rw [createdSequences, (areStatements_createTable hOrdinary hPlan).filterMap_eq]
  simp [Function.comp_def, Statement.created?]

theorem areStatements_dropTable (hOrdinary : dialect.IsOrdinary) (table : Table)
    (ifExists : Bool) :
    AreStatements dialect.quote (dialect.dropTable table ifExists)
      (.dropTable ifExists table.name :: (dialect.droppedNames table).map .dropSequence) := by
  have hQuote := hOrdinary.quote
  rw [dropTable_eq, flatMap_dropStatements]
  exact .cons (Statement.ofText?_dropTable hQuote table.name ifExists)
    (areStatements_map (Statement.ofText?_dropSequence hQuote) _)

end

/-! ## Running the statements -/

section

variable {database : Database}

theorem execAll_insertIdentity {tables : List Points}
    (hTables : ∀ table ∈ tables, table ∈ database.tables) :
    Statement.execAll (tables.map .insertIdentity) database = some database := by
  induction tables with
  | nil => rfl
  | cons table tables ih =>
      have hTable := hTables table (by simp)
      have hOthers := ih fun other hOther => hTables other (by simp [hOther])
      simp [Statement.execAll, Statement.exec, hTable, hOthers]

theorem execAll_table {name : Points} (hFresh : name ∉ database.tables) {inserted : List Points}
    (hInserted : ∀ table ∈ inserted, table = name) (ifNotExists ifExists : Bool) :
    Statement.execAll (.createTable ifNotExists name ::
      (inserted.map .insertIdentity ++ [.dropTable ifExists name])) database = some database := by
  let made : Database := { database with tables := insert name database.tables }
  have hMade : ∀ table ∈ inserted, table ∈ made.tables := by
    intro table hTable
    rw [hInserted table hTable]
    exact Finset.mem_insert_self name database.tables
  have hInsert := execAll_insertIdentity hMade
  simp only [Statement.execAll, Statement.exec, hFresh, if_false, Option.bind_some,
    Statement.execAll_append]
  rw [hInsert]
  simp [made, hFresh]

theorem execAll_sequence {name : Points} (hFresh : name ∉ database.sequences) :
    Statement.execAll [.createSequence name] database =
      some { database with sequences := insert name database.sequences } := by
  simp [Statement.execAll, Statement.exec, hFresh]

theorem execAll_dropSequence_iff {name other : Points} (hFresh : name ∉ database.sequences) :
    Statement.execAll [.dropSequence other]
        { database with sequences := insert name database.sequences } = some database ↔
      other = name := by
  constructor
  · intro hDropped
    by_contra hOther
    simp only [Statement.execAll, Statement.exec] at hDropped
    split at hDropped
    · have hEqual : (insert name database.sequences).erase other = database.sequences := by
        have hSame := Option.some.inj hDropped
        exact congrArg Database.sequences hSame
      have hKept : name ∈ (insert name database.sequences).erase other :=
        Finset.mem_erase.2 ⟨fun hName => hOther hName.symm, Finset.mem_insert_self _ _⟩
      exact hFresh (hEqual ▸ hKept)
    · cases hDropped
  · rintro rfl
    simp [Statement.execAll, Statement.exec, hFresh]

end

/-- A whole run succeeds and leaves nothing when the one sequence that it makes, if any, is
the one that it drops. -/
theorem execAll_whole {database : Database} {name : Points} (hTable : name ∉ database.tables)
    {inserted : List Points} (hInserted : ∀ table ∈ inserted, table = name)
    (ifNotExists ifExists : Bool) {created dropped : List Points}
    (hFresh : ∀ sequence ∈ created, sequence ∉ database.sequences)
    (hLengths : created.length = dropped.length ∧ created.length ≤ 1) :
    Statement.execAll (created.map .createSequence ++ .createTable ifNotExists name ::
      inserted.map .insertIdentity ++
        .dropTable ifExists name :: dropped.map .dropSequence) database = some database ↔
      dropped = created := by
  have hShape : created.map Statement.createSequence ++ .createTable ifNotExists name ::
      inserted.map .insertIdentity ++ .dropTable ifExists name :: dropped.map .dropSequence =
        created.map .createSequence ++ ((.createTable ifNotExists name ::
          (inserted.map .insertIdentity ++ [.dropTable ifExists name])) ++
            dropped.map .dropSequence) := by
    simp
  rw [hShape, Statement.execAll_append]
  match created, dropped, hFresh, hLengths with
  | [], [], _, _ =>
    rw [List.map_nil, Statement.execAll, Option.bind_some, List.map_nil, List.append_nil,
      execAll_table hTable hInserted]
    simp
  | [sequence], [other], hFresh, _ =>
    have hSequence := hFresh sequence (by simp)
    have hLater : name ∉ { database with
      sequences := insert sequence database.sequences : Database }.tables := hTable
    rw [List.map_singleton, execAll_sequence hSequence, Option.bind_some,
      Statement.execAll_append, execAll_table hLater hInserted, Option.bind_some,
      List.map_singleton, execAll_dropSequence_iff hSequence]
    simp

/-- Creating a table and dropping it name the same sequences, and give the database back
that had neither the table nor the sequences, exactly when the id of the table does not
name the empty sequence. -/
theorem createTable_dropTable {dialect : Dialect} (hBuiltin : dialect ∈ builtin) {table : Table}
    {ifNotExists : Bool} {plan : CreateTablePlan}
    (hPlan : dialect.createTable table ifNotExists = .ok plan) (ifExists : Bool) :
    ((∀ name, name ∈ createdSequences dialect.quote plan.statements ↔
        name ∈ droppedSequences dialect.quote (dialect.dropTable table ifExists)) ↔
      ¬dialect.NamesEmptySequence table) ∧
    ∀ database : Database, ↑table.name ∉ database.tables →
      (∀ name ∈ createdSequences dialect.quote plan.statements, name ∉ database.sequences) →
      (database.run dialect.quote (plan.statements ++ dialect.dropTable table ifExists) =
          some database ↔
        ¬dialect.NamesEmptySequence table) := by
  have hOrdinary := isOrdinary_of_mem_builtin hBuiltin
  have hCreate := areStatements_createTable hOrdinary hPlan
  have hDrop := areStatements_dropTable hOrdinary table ifExists
  have hCreated : createdSequences dialect.quote plan.statements = dialect.createdNames table := by
    rw [createdSequences, hCreate.filterMap_eq]
    simp [Function.comp_def, Statement.created?]
  have hDropped : droppedSequences dialect.quote (dialect.dropTable table ifExists) =
      dialect.droppedNames table := by
    rw [droppedSequences, hDrop.filterMap_eq]
    simp [List.filterMap_cons, Function.comp_def, Statement.dropped?]
  rw [hCreated, hDropped]
  -- Either both sides have the same names, one at most, or they have one each that differ.
  rcases names_cases hBuiltin table with
    ⟨hNamed, hSame, hShort⟩ | ⟨hEmpty, hMade, other, hOther, hGone⟩
  · refine ⟨by simp [hNamed, hSame], fun database hTable hFresh => ?_⟩
    rw [(hCreate.append hDrop).run_eq, execAll_whole hTable (fun _ => mem_insertedTables) _ _
      hFresh ⟨by rw [hSame], hShort⟩]
    simp [hNamed, hSame]
  · rw [hMade, hGone]
    refine ⟨?_, fun database hTable hFresh => ?_⟩
    · have hDiffer : ¬∀ name, name ∈ [.ofString ""] ↔ name ∈ [other] := by
        intro hNames
        exact hOther (List.mem_singleton.1 ((hNames (.ofString "")).1 (by simp))).symm
      simp only [hDiffer, hEmpty, not_true]
    · have hLengths : [Points.ofString ""].length = [other].length ∧
          [Points.ofString ""].length ≤ 1 := by
        simp
      rw [(hCreate.append hDrop).run_eq, hMade, hGone,
        execAll_whole hTable (fun _ => mem_insertedTables) _ _ hFresh hLengths]
      simp [hOther, hEmpty]

theorem createTable_dropTable_awkwardTable :
    ((∀ name, name ∈ createdSequences postgres.quote awkwardPlan.statements ↔
        name ∈ droppedSequences postgres.quote (postgres.dropTable awkwardTable false)) ↔
      ¬postgres.NamesEmptySequence awkwardTable) ∧
    ∀ database : Database, ↑awkwardTable.name ∉ database.tables →
      (∀ name ∈ createdSequences postgres.quote awkwardPlan.statements,
        name ∉ database.sequences) →
      (database.run postgres.quote
          (awkwardPlan.statements ++ postgres.dropTable awkwardTable false) = some database ↔
        ¬postgres.NamesEmptySequence awkwardTable) :=
  createTable_dropTable postgres_mem_builtin createTable_awkwardTable false

/-! ## The empty sequence -/

def namelessId : Field :=
  { awkwardId with
    columnName := none
    generatedIdSequence := some ""
    oneIdFlag := by decide
    insertNeedsGeneratedId := by decide }

def namelessTable : Table where
  name := "t"
  fields := [namelessId]
  name_ne_empty := by decide
  fields_ne_nil := by decide
  columns_nodup := by decide
  oneId := by decide

def namelessPlan : CreateTablePlan where
  tableName := "t"
  createTable :=
    "CREATE TABLE \"t\" (\"id\" INTEGER DEFAULT NEXTVAL('\"\"'), PRIMARY KEY (\"id\"))"
  statementsBefore := ["CREATE SEQUENCE \"\""]

/-- The sequence with the empty name is made and never dropped, and one is dropped that
was never made. -/
theorem createTable_dropTable_namelessTable :
    postgres.createTable namelessTable false = .ok namelessPlan ∧
      createdSequences postgres.quote namelessPlan.statements = [.ofString ""] ∧
      droppedSequences postgres.quote (postgres.dropTable namelessTable false) =
        [.ofString "t_id_seq"] ∧
      (Database.mk ∅ ∅).run postgres.quote
        (namelessPlan.statements ++ postgres.dropTable namelessTable false) = none := by
  refine ⟨rfl, rfl, rfl, rfl⟩

end SqlDialects.Dialect
