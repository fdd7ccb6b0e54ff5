import SqlDialects.Proofs.Ddl.Structure

/-!
# The companions of table creation

A table has at most one id, so the statements that its fields contribute are those of
the id.  They are a sequence on a dialect that takes ids from sequences and a session
setting on a dialect with identity columns that accept values.
-/

namespace SqlDialects

open Sql
open Text (Points)

/-! ## The id of a table -/

theorem Table.filter_isId (table : Table) :
    (table.fields.filter fun field => field.isId) = table.idField?.toList := by
  have hOne := table.oneId
  rw [Table.idField?, ← List.head?_filter]
  cases hIds : table.fields.filter fun field => field.isId with
  | nil => rfl
  | cons field others =>
      rw [hIds, List.length_cons] at hOne
      have hOthers : others = [] := List.eq_nil_of_length_eq_zero (by omega)
      rw [hOthers]
      rfl

section

variable {table : Table} {contribution : FieldSpec → List Points}

/-- What only ids contribute is what the id of the table contributes. -/
theorem Table.flatMap_eq_idField
    (hOnly : ∀ field, contribution field ≠ [] → field.isId = true) :
    (table.fields.map Field.toFieldSpec).flatMap contribution =
      table.idField?.toList.flatMap fun field => contribution field.toFieldSpec := by
  rw [← table.filter_isId, List.flatMap_map]
  induction table.fields with
  | nil => rfl
  | cons field fields ih =>
      by_cases hId : field.isId = true
      · simp [hId, ih]
      · -- A field that is no id is dropped by the filter and contributes nothing.
        have hNothing : contribution field.toFieldSpec = [] := by
          by_contra hSome
          exact hId (hOnly _ hSome)
        simp [hId, hNothing, ih]

theorem Table.flatMap_eq_of_idField
    (hOnly : ∀ field, contribution field ≠ [] → field.isId = true) {field : Field}
    (hField : table.idField? = some field) :
    (table.fields.map Field.toFieldSpec).flatMap contribution =
      contribution field.toFieldSpec := by
  simp [Table.flatMap_eq_idField hOnly, hField]

theorem Table.flatMap_eq_nil_of_idField
    (hOnly : ∀ field, contribution field ≠ [] → field.isId = true)
    (hNothing : ∀ field, table.idField? = some field → contribution field.toFieldSpec = []) :
    (table.fields.map Field.toFieldSpec).flatMap contribution = [] := by
  rw [Table.flatMap_eq_idField hOnly]
  cases hField : table.idField? with
  | none => rfl
  | some field => simp [hNothing field hField]

end

theorem Table.mem_of_idField {table : Table} {field : Field}
    (hField : table.idField? = some field) : field ∈ table.fields :=
  List.mem_of_find?_eq_some hField

theorem Table.isId_of_idField {table : Table} {field : Field}
    (hField : table.idField? = some field) : field.isId = true := by
  rw [Table.idField?] at hField
  simpa using List.find?_some hField

namespace Dialect

theorem idGeneration_eq_sequence_iff {dialect : Dialect} (hBuiltin : dialect ∈ builtin) :
    dialect.idGeneration = .sequence ↔ dialect = postgres := by
  simp only [builtin, List.mem_cons, List.not_mem_nil, or_false] at hBuiltin
  constructor
  · intro hGeneration
    rcases hBuiltin with rfl | rfl | rfl | rfl <;> first | rfl | cases hGeneration
  · rintro rfl
    rfl

theorem idGeneration_eq_identity_iff {dialect : Dialect} (hBuiltin : dialect ∈ builtin) :
    dialect.idGeneration = .identity ↔ dialect = sqlserver := by
  simp only [builtin, List.mem_cons, List.not_mem_nil, or_false] at hBuiltin
  constructor
  · intro hGeneration
    rcases hBuiltin with rfl | rfl | rfl | rfl <;> first | rfl | cases hGeneration
  · rintro rfl
    rfl

def IsSequenceId (dialect : Dialect) (table : Table) (field : Field) : Prop :=
  dialect = postgres ∧ table.idField? = some field ∧ field.isGeneratedId = true

def IsInsertedId (dialect : Dialect) (table : Table) (field : Field) : Prop :=
  dialect = sqlserver ∧ table.idField? = some field ∧ field.allowGeneratedIdInsert = true

/-- The sequence of an id: the one that it names or else one named after its column. -/
def sequenceOf (table : Table) (field : Field) : Points :=
  field.generatedIdSequence.getD (.ofString (table.name ++ "_") ++ field.column ++ "_seq")

theorem createdSequence_postgres (table : Table) (field : Field) :
    postgres.createdSequence table.name field.toFieldSpec = sequenceOf table field := by
  unfold createdSequence sequenceOf
  cases field.generatedIdSequence <;> rfl

/-! ## Statements -/

theorem isId_of_guarded {field : FieldSpec} {guard : Prop} [Decidable guard]
    {statements : List Points} (hGuard : guard → field.isGeneratedId = true)
    (hSome : (if guard then statements else []) ≠ []) : field.isId = true := by
  by_contra hId
  have hNot : ¬guard := fun hHolds => hId (isId_of_isGeneratedId (hGuard hHolds))
  simp [hNot] at hSome

theorem isId_of_sequenceStatements {dialect : Dialect} {tableName : String} (field : FieldSpec)
    (hSome : dialect.sequenceStatements tableName field ≠ []) : field.isId = true :=
  isId_of_guarded (fun hGuard => hGuard.1) hSome

theorem isId_of_insertStatements {dialect : Dialect} {tableName : String} (field : FieldSpec)
    (hSome : dialect.insertStatements tableName field ≠ []) : field.isId = true :=
  isId_of_guarded (fun hGuard => hGuard.1) hSome

/-- The statements around the creation of a table, by the id of the table. -/
structure HasCompanions (dialect : Dialect) (table : Table) (ifNotExists : Bool)
    (plan : CreateTablePlan) : Prop where
  sequence : ∀ field, dialect.IsSequenceId table field → plan.statementsBefore =
    ["CREATE SEQUENCE " ++ dialect.quoteIdentifier (sequenceOf table field)]
  noSequence : (∀ field, ¬dialect.IsSequenceId table field) → plan.statementsBefore = []
  nextValue : ∀ field, dialect.IsSequenceId table field → ∃ reading item content, ∃ index : Nat,
    TableReading.ofText? dialect.quote (createTableHead ifNotExists) plan.createTable =
        some reading ∧
      table.fields[index]? = some field ∧ reading.items[index]? = some item ∧
      symbols "DEFAULT NEXTVAL(" ++ [.literal content, .symbol ')'] <:+: item ∧
      lexemes dialect.quote content = some [.name (sequenceOf table field)]
  insertion : ∀ field, dialect.IsInsertedId table field → plan.statementsAfter =
    ["SET IDENTITY_INSERT " ++ dialect.quoteIdentifier table.name ++ " ON"]
  noInsertion : (∀ field, ¬dialect.IsInsertedId table field) → plan.statementsAfter = []
  queries : plan.queriesAfter = []
  order : plan.statements =
    plan.statementsBefore ++ [plan.createTable] ++ plan.statementsAfter ++ plan.queriesAfter

theorem exists_item {belongs : Field → List Lexeme → Prop} {fields : List Field}
    {columns : List (List Lexeme)} (hColumns : List.Forall₂ belongs fields columns) {field : Field}
    (hField : field ∈ fields) :
    ∃ index : Nat, fields[index]? = some field ∧
      ∃ item, columns[index]? = some item ∧ belongs field item := by
  induction hColumns with
  | nil => cases hField
  | @cons first column fields columns hFirst _ ih =>
      rcases List.mem_cons.1 hField with rfl | hOther
      · exact ⟨0, rfl, column, rfl, hFirst⟩
      · obtain ⟨index, hIndex, item, hItem, hShape⟩ := ih hOther
        exact ⟨index + 1, hIndex, item, hItem, hShape⟩

/-- The column of the id takes its values from the sequence that is created for it. -/
theorem createTable_nextValue {table : Table} {ifNotExists : Bool} {plan : CreateTablePlan}
    (hPlan : postgres.createTable table ifNotExists = .ok plan) {field : Field}
    (hField : table.idField? = some field) (hGenerated : field.isGeneratedId = true) :
    ∃ reading item content, ∃ index : Nat,
      TableReading.ofText? postgres.quote (createTableHead ifNotExists) plan.createTable =
          some reading ∧
        table.fields[index]? = some field ∧ reading.items[index]? = some item ∧
        symbols "DEFAULT NEXTVAL(" ++ [.literal content, .symbol ')'] <:+: item ∧
        lexemes postgres.quote content = some [.name (sequenceOf table field)] := by
  obtain ⟨texts, context, columns, arguments, -, hReading, -, -, hColumns, -⟩ :=
    exists_tableReading (isOrdinary_of_mem_builtin postgres_mem_builtin) hPlan
  obtain ⟨index, hIndex, item, hItem, definition, hDefinition, hIdentity⟩ :=
    exists_item hColumns (Table.mem_of_idField hField)
  have hSequence : postgres.identityLexemes table.name field.toFieldSpec =
      symbols "DEFAULT NEXTVAL(" ++
        [.literal (postgres.quoteIdentifier (sequenceOf table field)), .symbol ')'] := by
    have hGeneration : postgres.idGeneration = .sequence := rfl
    simp only [identityLexemes, hGenerated, if_true, hGeneration, createdSequence_postgres]
  rw [hSequence] at hIdentity
  refine ⟨_, item, _, index, hReading, hIndex, ?_, ?_, (Reads.name _ _).lexemes_eq⟩
  · have hShort : index < columns.length := (List.getElem?_eq_some_iff.1 hItem).1
    rw [List.getElem?_append_left hShort, hItem]
  · rw [hDefinition]
    exact hIdentity.trans ((List.suffix_cons _ _).trans (List.suffix_cons _ _)).isInfix

theorem createTable_companions {dialect : Dialect} (hBuiltin : dialect ∈ builtin) {table : Table}
    {ifNotExists : Bool} {plan : CreateTablePlan}
    (hPlan : dialect.createTable table ifNotExists = .ok plan) :
    dialect.HasCompanions table ifNotExists plan := by
  have hMade := hPlan
  obtain ⟨-, texts, -, rfl⟩ := (dialect.createTable_eq_ok_iff table ifNotExists plan).1 hMade
  constructor
  case sequence =>
    rintro field ⟨rfl, hField, hGenerated⟩
    have hSequence : postgres.idGeneration = .sequence := rfl
    refine (Table.flatMap_eq_of_idField isId_of_sequenceStatements hField).trans ?_
    simp [sequenceStatements, hGenerated, hSequence, createdSequence_postgres]
  case noSequence =>
    intro hNone
    apply Table.flatMap_eq_nil_of_idField isId_of_sequenceStatements
    intro field hField
    rw [sequenceStatements, if_neg]
    rintro ⟨hGenerated, hGeneration⟩
    exact hNone field ⟨(idGeneration_eq_sequence_iff hBuiltin).1 hGeneration, hField, hGenerated⟩
  case nextValue =>
    rintro field ⟨rfl, hField, hGenerated⟩
    exact createTable_nextValue hPlan hField hGenerated
  case insertion =>
    rintro field ⟨rfl, hField, hInsert⟩
    have hIdentity : sqlserver.idGeneration = .identity := rfl
    refine (Table.flatMap_eq_of_idField isId_of_insertStatements hField).trans ?_
    simp [insertStatements, field.insertNeedsGeneratedId hInsert, hInsert, hIdentity]
  case noInsertion =>
    intro hNone
    apply Table.flatMap_eq_nil_of_idField isId_of_insertStatements
    intro field hField
    rw [insertStatements, if_neg]
    rintro ⟨-, hGeneration, hInsert⟩
    exact hNone field ⟨(idGeneration_eq_identity_iff hBuiltin).1 hGeneration, hField, hInsert⟩
  case queries => rfl
  case order => simp [CreateTablePlan.statements]

theorem createTable_companions_awkwardTable :
    postgres.createTable awkwardTable false = .ok awkwardPlan ∧
      postgres.HasCompanions awkwardTable false awkwardPlan :=
  ⟨createTable_awkwardTable, createTable_companions postgres_mem_builtin createTable_awkwardTable⟩

end Dialect

end SqlDialects
