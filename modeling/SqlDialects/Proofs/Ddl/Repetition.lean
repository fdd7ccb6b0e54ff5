import SqlDialects.Proofs.Ddl.Sequences

/-!
# Creating twice

A plan that creates a table only if it does not exist can be run again without an effect,
unless the id of the table takes its values from a sequence: a sequence is created without
asking whether it exists, so the second run fails (`Dialect.createTable_twice`).
-/

namespace SqlDialects.Dialect

open Sql
open Text (Points)

theorem createdNames_cases {dialect : Dialect} (hBuiltin : dialect ∈ builtin) (table : Table) :
    (dialect.createdNames table = [] ∧ ∀ field, ¬dialect.IsSequenceId table field) ∨
      ∃ field, dialect.IsSequenceId table field ∧
        dialect.createdNames table = [sequenceOf table field] := by
  by_cases hSome : ∃ field, dialect.IsSequenceId table field
  · obtain ⟨field, rfl, hField, hGenerated⟩ := hSome
    have hGeneration : postgres.idGeneration = .sequence := rfl
    refine .inr ⟨field, ⟨rfl, hField, hGenerated⟩, ?_⟩
    simp [createdNames, hField, hGenerated, hGeneration, createdSequence_postgres]
  · rw [not_exists] at hSome
    refine .inl ⟨?_, hSome⟩
    rw [createdNames, List.flatMap_eq_nil_iff]
    intro field hField
    rw [if_neg]
    rintro ⟨hGenerated, hGeneration⟩
    exact hSome field
      ⟨(idGeneration_eq_sequence_iff hBuiltin).1 hGeneration, by simpa using hField, hGenerated⟩

/-! ## Runs -/

/-- What the first run of a plan makes, and what a second run does. -/
structure RunsTwice (dialect : Dialect) (table : Table) (plan : CreateTablePlan)
    (database after : Database) : Prop where
  first : database.run dialect.quote plan.statements = some after
  tables : after.tables = insert ↑table.name database.tables
  sequences : after.sequences =
    database.sequences ∪ (createdSequences dialect.quote plan.statements).toFinset
  again : after.run dialect.quote plan.statements = some after ↔
    ∀ field, ¬dialect.IsSequenceId table field
  failing : after.run dialect.quote plan.statements = none ↔
    ∃ field, dialect.IsSequenceId table field

section

variable {name : Points} {inserted : List Points} (hInserted : ∀ table ∈ inserted, table = name)
  {database : Database}
include hInserted

theorem execAll_newTable (hFresh : name ∉ database.tables) :
    Statement.execAll (.createTable true name :: inserted.map .insertIdentity) database =
      some { database with tables := insert name database.tables } := by
  simp only [Statement.execAll, Statement.exec, hFresh, if_false, Option.bind_some]
  apply execAll_insertIdentity
  intro table hTable
  rw [hInserted table hTable]
  exact Finset.mem_insert_self name database.tables

theorem execAll_oldTable (hThere : name ∈ database.tables) :
    Statement.execAll (.createTable true name :: inserted.map .insertIdentity) database =
      some database := by
  simp only [Statement.execAll, Statement.exec, hThere, if_true, Option.bind_some]
  exact execAll_insertIdentity fun table hTable => hInserted table hTable ▸ hThere

end

section

variable {dialect : Dialect} {table : Table} {plan : CreateTablePlan} {database : Database}
  (hStatements : AreStatements dialect.quote plan.statements
    ((dialect.createdNames table).map .createSequence ++
      .createTable true table.name :: (dialect.insertedTables table).map .insertIdentity))
  (hCreated : createdSequences dialect.quote plan.statements = dialect.createdNames table)
  (hTable : ↑table.name ∉ database.tables)
include hStatements hCreated hTable

theorem runsTwice_of_noSequence (hNone : dialect.createdNames table = [])
    (hPlain : ∀ field, ¬dialect.IsSequenceId table field) :
    dialect.RunsTwice table plan database
      ⟨insert ↑table.name database.tables, database.sequences⟩ := by
  have hInserted : ∀ name ∈ dialect.insertedTables table, name = table.name :=
    fun _ => mem_insertedTables
  rw [hNone, List.map_nil, List.nil_append] at hStatements
  have hAgain :
      Database.run dialect.quote plan.statements
          ⟨insert ↑table.name database.tables, database.sequences⟩ =
        some ⟨insert ↑table.name database.tables, database.sequences⟩ := by
    rw [hStatements.run_eq]
    exact execAll_oldTable hInserted (Finset.mem_insert_self _ _)
  exact {
    first := (hStatements.run_eq database).trans (execAll_newTable hInserted hTable)
    tables := rfl
    sequences := by simp [hCreated, hNone]
    again := by simp [hAgain, hPlain]
    failing := by simp [hAgain, hPlain] }

/-- A sequence cannot be made a second time. -/
theorem runsTwice_of_sequence {field : Field} (hField : dialect.IsSequenceId table field)
    (hOne : dialect.createdNames table = [sequenceOf table field])
    (hSequence : sequenceOf table field ∉ database.sequences) :
    dialect.RunsTwice table plan database
      ⟨insert ↑table.name database.tables,
        insert (sequenceOf table field) database.sequences⟩ := by
  rw [hOne, List.map_singleton, List.singleton_append] at hStatements
  have hSome : ∃ field, dialect.IsSequenceId table field := ⟨field, hField⟩
  have hFails (tables : Finset Points) :
      Database.run dialect.quote plan.statements
        ⟨tables, insert (sequenceOf table field) database.sequences⟩ = none := by
    rw [hStatements.run_eq, Statement.execAll, Statement.exec,
      if_pos (Finset.mem_insert_self _ _), Option.bind_none]
  exact {
    first := by
      rw [hStatements.run_eq, Statement.execAll, Statement.exec, if_neg hSequence,
        Option.bind_some]
      exact execAll_newTable (fun _ => mem_insertedTables) hTable
    tables := rfl
    sequences := by
      rw [hCreated, hOne, List.toFinset_cons, List.toFinset_nil, Finset.union_insert,
        Finset.union_empty]
    again := by simp [hFails, hSome]
    failing := by simp [hFails, hSome] }

end

/-- The plan of a table that may exist already runs in a database that has neither the table
nor its sequence.  Run again it changes nothing, unless the id of the table takes its values
from a sequence: then it fails. -/
theorem createTable_twice {dialect : Dialect} (hBuiltin : dialect ∈ builtin) {table : Table}
    {plan : CreateTablePlan} (hPlan : dialect.createTable table true = .ok plan)
    {database : Database} (hTable : ↑table.name ∉ database.tables)
    (hSequences : ∀ name ∈ createdSequences dialect.quote plan.statements,
      name ∉ database.sequences) :
    ∃ after, dialect.RunsTwice table plan database after := by
  have hOrdinary := isOrdinary_of_mem_builtin hBuiltin
  have hStatements := areStatements_createTable hOrdinary hPlan
  have hCreated := createdSequences_createTable hOrdinary hPlan
  rw [hCreated] at hSequences
  rcases createdNames_cases hBuiltin table with ⟨hNone, hPlain⟩ | ⟨field, hField, hOne⟩
  · exact ⟨_, runsTwice_of_noSequence hStatements hCreated hTable hNone hPlain⟩
  · exact ⟨_, runsTwice_of_sequence hStatements hCreated hTable hField hOne
      (hSequences _ (by simp [hOne]))⟩

def repeatablePlan : CreateTablePlan where
  tableName := "t\", ("
  createTable :=
    "CREATE TABLE IF NOT EXISTS `t\", (` (`i\"),d` INTEGER PRIMARY KEY AUTOINCREMENT" ++
      ", `note` TEXT DEFAULT 'x''), (', UNIQUE (`note`))"

theorem createTable_twice_awkwardTable :
    ∃ after, sqlite.RunsTwice awkwardTable repeatablePlan ⟨∅, ∅⟩ after :=
  createTable_twice (by simp [builtin]) rfl (Finset.notMem_empty _) fun _ _ => Finset.notMem_empty _

/-! ## A sequence made twice -/

def countedTable : Table :=
  (SequencedTable.ofNames "ledger" "entry" (by decide) (by decide)).table

def countedPlan : CreateTablePlan where
  tableName := "ledger"
  createTable := "CREATE TABLE IF NOT EXISTS \"ledger\" (\"entry\" INTEGER " ++
    "DEFAULT NEXTVAL('\"ledger_entry_seq\"'), PRIMARY KEY (\"entry\"))"
  statementsBefore := ["CREATE SEQUENCE \"ledger_entry_seq\""]

theorem createTable_twice_countedTable :
    postgres.createTable countedTable true = .ok countedPlan ∧
      (Database.mk ∅ ∅).run postgres.quote (countedPlan.statements ++ countedPlan.statements) =
        none :=
  ⟨by decide +kernel, by decide +kernel⟩

end SqlDialects.Dialect
