import Mathlib.Data.Finset.Lattice.Lemmas
import Mathlib.Data.List.Pairwise
import SqlDialects.Proofs.Ddl.Removal

/-!
# Sequences of several tables

A generated id takes its values from a sequence whose name joins the names of its table and
its column.  The joined name does not tell where the one ends and the other starts, so two
tables may ask for one sequence.  Tables can be created together, and dropped one by one,
exactly when no two of them do (`Dialect.createTable_sequences`).
-/

namespace SqlDialects

open Text (Points)

/-- A table whose id is generated without a sequence of its own. -/
structure SequencedTable where
  table : Table
  id : Field
  isId : table.idField? = some id
  generated : id.generatedId = true

namespace SequencedTable

def name (made : SequencedTable) : Points :=
  made.table.name

def sequence (made : SequencedTable) : Points :=
  made.name ++ "_" ++ made.id.column ++ "_seq"

/-- The name of the second table continues that of the first by what the column of the first
starts with. -/
def Continues (first second : SequencedTable) : Prop :=
  ∃ middle : Points, second.name = first.name ++ "_" ++ middle ∧
    first.id.column = middle ++ "_" ++ second.id.column

/-- Two tables ask for one sequence. -/
def Share (first second : SequencedTable) : Prop :=
  first.Continues second ∨ second.Continues first

/-! ## Names -/

theorem append_mark_eq_iff {α : Type} {mark : α} {first second after other : List α}
    (hDiffer : first ≠ second) :
    first ++ mark :: after = second ++ mark :: other ↔
      (∃ middle, second = first ++ mark :: middle ∧ after = middle ++ mark :: other) ∨
        ∃ middle, first = second ++ mark :: middle ∧ other = middle ++ mark :: after := by
  have hContinued {first second after other middle : List α} (hSecond : second = first ++ middle)
      (hAfter : mark :: after = middle ++ mark :: other) (hDiffer : first ≠ second) :
      ∃ middle, second = first ++ mark :: middle ∧ after = middle ++ mark :: other := by
    -- The first texts differ, so the longer one reaches past the mark.
    cases middle with
    | nil => exact absurd (by simpa using hSecond.symm) hDiffer
    | cons c middle =>
        obtain ⟨rfl, rfl⟩ := List.cons.inj hAfter
        exact ⟨middle, hSecond, rfl⟩
  constructor
  · intro hEqual
    rcases List.append_eq_append_iff.1 hEqual with
      ⟨middle, hSecond, hAfter⟩ | ⟨middle, hFirst, hOther⟩
    · exact .inl (hContinued hSecond hAfter hDiffer)
    · exact .inr (hContinued hFirst hOther hDiffer.symm)
  · rintro (⟨middle, rfl, rfl⟩ | ⟨middle, rfl, rfl⟩) <;> simp

theorem continues_iff (first second : SequencedTable) :
    first.Continues second ↔
      ∃ middle, second.name.toList = first.name.toList ++ .char '_' :: middle ∧
        first.id.column.toList = middle ++ .char '_' :: second.id.column.toList := by
  constructor
  · rintro ⟨middle, hName, hColumn⟩
    exact ⟨middle.toList, by simp [hName], by simp [hColumn]⟩
  · rintro ⟨middle, hName, hColumn⟩
    refine ⟨⟨middle⟩, ?_, ?_⟩
    · rw [← Points.toList_inj, hName]
      simp
    · rw [← Points.toList_inj, hColumn]
      simp

/-- Tables of different names ask for one sequence if and only if one of them continues the
other. -/
theorem sequence_eq_iff {first second : SequencedTable} (hDiffer : first.name ≠ second.name) :
    first.sequence = second.sequence ↔ first.Share second := by
  have hLists : first.name.toList ≠ second.name.toList := fun hEqual =>
    hDiffer (Points.toList_inj.1 hEqual)
  have hParts (made : SequencedTable) : made.sequence.toList =
      made.name.toList ++ .char '_' :: made.id.column.toList ++
        (Points.ofString "_seq").toList := by
    simp [sequence]
  rw [← Points.toList_inj, hParts, hParts, List.append_cancel_right_eq,
    append_mark_eq_iff hLists, Share, continues_iff, continues_iff]

theorem generatedIdSequence_eq_none (made : SequencedTable) :
    made.id.generatedIdSequence = none := by
  have hFlags := made.id.oneIdFlag
  cases hSequence : made.id.generatedIdSequence with
  | none => rfl
  | some sequence =>
      simp only [FieldSpec.idFlagCount, made.generated, hSequence, Option.isSome_some] at hFlags
      cases hId : made.id.id <;> simp [hId] at hFlags

theorem sequenceName_eq (made : SequencedTable) :
    Dialect.sequenceName made.table.name made.id.toFieldSpec = made.sequence := by
  simp [Dialect.sequenceName, sequence, name, Points.ofString_append]

theorem createdNames_postgres (made : SequencedTable) :
    Dialect.postgres.createdNames made.table = [made.sequence] := by
  have hGenerated : made.id.isGeneratedId = true := by
    simp [FieldSpec.isGeneratedId, made.generated]
  have hGeneration : Dialect.postgres.idGeneration = .sequence := rfl
  simp [Dialect.createdNames, made.isId, hGenerated, hGeneration, Dialect.createdSequence,
    made.generatedIdSequence_eq_none, made.sequenceName_eq]

theorem droppedNames_postgres (made : SequencedTable) :
    Dialect.postgres.droppedNames made.table = [made.sequence] := by
  have hGenerated : made.id.isGeneratedId = true := by
    simp [FieldSpec.isGeneratedId, made.generated]
  have hGeneration : Dialect.postgres.idGeneration = .sequence := rfl
  simp [Dialect.droppedNames, made.isId, hGenerated, hGeneration, Dialect.droppedSequence,
    made.generatedIdSequence_eq_none, made.sequenceName_eq]

/-! ## Runs -/

/-- The statements that create a table and its sequence. -/
def creation (ifNotExists : Bool) (made : SequencedTable) : List Statement :=
  [.createSequence made.sequence, .createTable ifNotExists made.name]

/-- A database after some tables and their sequences have been made. -/
def addAll (database : Database) (made : List SequencedTable) : Database where
  tables := database.tables ∪ (made.map name).toFinset
  sequences := database.sequences ∪ (made.map sequence).toFinset

theorem execAll_creation (ifNotExists : Bool) {one : SequencedTable} {database : Database}
    (hTable : one.name ∉ database.tables) :
    Statement.execAll (one.creation ifNotExists) database =
      if one.sequence ∈ database.sequences then none
      else some ⟨insert one.name database.tables, insert one.sequence database.sequences⟩ := by
  by_cases hSequence : one.sequence ∈ database.sequences
  · simp [creation, Statement.execAll, Statement.exec, hSequence]
  · simp [creation, Statement.execAll, Statement.exec, hSequence, hTable]

/-- Tables can be created one after the other if and only if all their sequences are new. -/
theorem execAll_creations (ifNotExists : Bool) {made : List SequencedTable} {database : Database}
    (hNames : (made.map name).Nodup) (hTables : ∀ one ∈ made, one.name ∉ database.tables) :
    Statement.execAll (made.flatMap (creation ifNotExists)) database =
      if (made.map sequence).Nodup ∧ ∀ one ∈ made, one.sequence ∉ database.sequences then
        some (addAll database made)
      else none := by
  induction made generalizing database with
  | nil => simp [Statement.execAll, addAll]
  | cons one made ih =>
      rw [List.map_cons, List.nodup_cons] at hNames
      have hLater : ∀ other ∈ made, other.name ∉ insert one.name database.tables := by
        intro other hOther hMem
        rcases Finset.mem_insert.1 hMem with hSame | hThere
        · exact hNames.1 (hSame ▸ List.mem_map_of_mem hOther)
        · exact hTables other (List.mem_cons_of_mem one hOther) hThere
      rw [List.flatMap_cons, Statement.execAll_append,
        execAll_creation ifNotExists (hTables one List.mem_cons_self)]
      by_cases hSequence : one.sequence ∈ database.sequences
      · simp [hSequence]
      · have hNext : addAll ⟨insert one.name database.tables,
            insert one.sequence database.sequences⟩ made = addAll database (one :: made) := by
          simp [addAll, Finset.insert_union, Finset.union_insert]
        -- The later tables meet the sequence of the first one in the database.
        have hFresh : (∀ other ∈ made, other.sequence ∉ insert one.sequence database.sequences) ↔
            one.sequence ∉ made.map sequence ∧
              ∀ other ∈ made, other.sequence ∉ database.sequences := by
          simp only [Finset.mem_insert, not_or, List.mem_map, not_exists, not_and]
          exact ⟨fun hAll => ⟨fun other hOther => (hAll other hOther).1,
            fun other hOther => (hAll other hOther).2⟩,
            fun hBoth other hOther => ⟨hBoth.1 other hOther, hBoth.2 other hOther⟩⟩
        rw [if_neg hSequence, Option.bind_some, ih hNames.2 hLater, hNext]
        refine if_congr ?_ rfl rfl
        rw [hFresh, List.map_cons, List.nodup_cons, List.forall_mem_cons]
        simp only [hSequence, not_false_eq_true, true_and]
        exact and_left_comm.trans and_assoc.symm

/-! ## Plans -/

section

variable {ifNotExists : Bool} {made : List SequencedTable} {plans : List CreateTablePlan}

def ArePlans (ifNotExists : Bool) (made : List SequencedTable) (plans : List CreateTablePlan) :
    Prop :=
  List.Forall₂ (fun one plan => Dialect.postgres.createTable one.table ifNotExists = .ok plan)
    made plans

theorem areStatements_creation {one : SequencedTable} {plan : CreateTablePlan}
    (hPlan : Dialect.postgres.createTable one.table ifNotExists = .ok plan) :
    AreStatements Dialect.postgres.quote plan.statements (one.creation ifNotExists) := by
  have hStatements := Dialect.areStatements_createTable
    (Dialect.isOrdinary_of_mem_builtin Dialect.postgres_mem_builtin) hPlan
  have hInserted : Dialect.postgres.insertedTables one.table = [] := by
    have hGeneration : Dialect.postgres.idGeneration = .sequence := rfl
    simp [Dialect.insertedTables, one.isId, hGeneration]
  rw [one.createdNames_postgres, hInserted] at hStatements
  exact hStatements

theorem ArePlans.areStatements (hPlans : ArePlans ifNotExists made plans) :
    AreStatements Dialect.postgres.quote (plans.flatMap CreateTablePlan.statements)
      (made.flatMap (creation ifNotExists)) := by
  induction hPlans with
  | nil => exact .nil
  | cons hPlan _ ih =>
      rw [List.flatMap_cons, List.flatMap_cons]
      exact (areStatements_creation hPlan).append ih

theorem createdSequences_creation {one : SequencedTable} {plan : CreateTablePlan}
    (hPlan : Dialect.postgres.createTable one.table ifNotExists = .ok plan) :
    createdSequences Dialect.postgres.quote plan.statements = [one.sequence] := by
  rw [Dialect.createdSequences_createTable
    (Dialect.isOrdinary_of_mem_builtin Dialect.postgres_mem_builtin) hPlan,
    one.createdNames_postgres]

theorem ArePlans.createdSequences (hPlans : ArePlans ifNotExists made plans) :
    (plans.flatMap fun plan => createdSequences Dialect.postgres.quote plan.statements) =
      made.map sequence := by
  induction hPlans with
  | nil => rfl
  | cons hPlan _ ih =>
      rw [List.flatMap_cons, createdSequences_creation hPlan, ih]
      rfl

theorem nodup_sequences_iff (hNames : (made.map name).Nodup) :
    (made.map sequence).Nodup ↔ made.Pairwise fun first second => ¬first.Share second := by
  rw [List.Nodup, List.pairwise_map] at hNames ⊢
  constructor
  · exact fun hSequences => hNames.imp₂ (fun first second hName hSequence hShare =>
      hSequence ((sequence_eq_iff hName).2 hShare)) hSequences
  · exact fun hApart => hNames.imp₂ (fun first second hName hShare hSequence =>
      hShare ((sequence_eq_iff hName).1 hSequence)) hApart

theorem run_dropTable (one : SequencedTable) (ifExists : Bool) {database : Database}
    (hTable : one.name ∈ database.tables) (hSequence : one.sequence ∈ database.sequences) :
    database.run Dialect.postgres.quote (Dialect.postgres.dropTable one.table ifExists) =
      some ⟨database.tables.erase one.name, database.sequences.erase one.sequence⟩ := by
  rw [(Dialect.areStatements_dropTable
    (Dialect.isOrdinary_of_mem_builtin Dialect.postgres_mem_builtin) one.table ifExists).run_eq,
    one.droppedNames_postgres]
  have hNamed : ↑one.table.name ∈ database.tables := hTable
  simp [Statement.execAll, Statement.exec, hNamed, hSequence]
  rfl

end

/-! ## The theorem -/

/-- What the plans of several tables do to the sequences of one another. -/
structure KeepsApart (made : List SequencedTable) (plans : List CreateTablePlan) : Prop where
  distinct :
    (plans.flatMap fun plan => createdSequences Dialect.postgres.quote plan.statements).Nodup ↔
      made.Pairwise fun first second => ¬first.Share second
  creating : ∀ database : Database,
    (∀ one ∈ made, one.name ∉ database.tables ∧ one.sequence ∉ database.sequences) →
      (database.run Dialect.postgres.quote (plans.flatMap CreateTablePlan.statements) =
          some (addAll database made) ↔
        made.Pairwise fun first second => ¬first.Share second) ∧
      ((database.run Dialect.postgres.quote (plans.flatMap CreateTablePlan.statements)).isSome ↔
        made.Pairwise fun first second => ¬first.Share second)
  dropping : ∀ first ∈ made, ∀ (ifExists : Bool) (database : Database),
    first.name ∈ database.tables → first.sequence ∈ database.sequences →
      ∃ after,
        database.run Dialect.postgres.quote (Dialect.postgres.dropTable first.table ifExists) =
          some after ∧
        ∀ second ∈ made, first.name ≠ second.name → second.sequence ∈ database.sequences →
          (second.sequence ∈ after.sequences ↔ ¬first.Share second)

/-- Tables of different names get different sequences, can be created together and leave the
sequences of one another alone, exactly when no two of them ask for one sequence. -/
theorem createTable_sequences {ifNotExists : Bool} {made : List SequencedTable}
    {plans : List CreateTablePlan} (hNames : (made.map name).Nodup)
    (hPlans : ArePlans ifNotExists made plans) : KeepsApart made plans where
  distinct := by
    rw [hPlans.createdSequences, nodup_sequences_iff hNames]
  creating database hFresh := by
    rw [hPlans.areStatements.run_eq, execAll_creations ifNotExists hNames
      fun one hOne => (hFresh one hOne).1, ← nodup_sequences_iff hNames]
    by_cases hNodup : (made.map sequence).Nodup
    · rw [if_pos ⟨hNodup, fun one hOne => (hFresh one hOne).2⟩]
      simp [hNodup]
    · simp [hNodup]
  dropping first _ ifExists database hTable hSequence := by
    refine ⟨_, run_dropTable first ifExists hTable hSequence, fun second _ hDiffer hThere => ?_⟩
    rw [Finset.mem_erase, ← sequence_eq_iff hDiffer]
    exact ⟨fun hKept hSame => hKept.1 hSame.symm,
      fun hOther => ⟨fun hSame => hOther hSame.symm, hThere⟩⟩

/-! ## Two tables -/

/-- A table that has nothing but an id that is generated. -/
def ofNames (name column : String) (name_ne_empty : name ≠ "") (column_ne_empty : column ≠ "") :
    SequencedTable :=
  let id : Field := {
    name := column
    sqlType := .int
    width := 0
    columnName := none
    id := false
    generatedId := true
    generatedIdSequence := none
    allowGeneratedIdInsert := false
    nullable := true
    unique := false
    default := none
    name_ne_empty := column_ne_empty
    oneIdFlag := by simp [FieldSpec.idFlagCount]
    insertNeedsGeneratedId := nofun }
  { table := {
      name := name
      fields := [id]
      name_ne_empty := name_ne_empty
      fields_ne_nil := nofun
      columns_nodup := List.nodup_singleton _
      oneId := List.length_filter_le _ _ }
    id := id
    isId := rfl
    generated := rfl }

def orders : SequencedTable :=
  ofNames "orders" "item" (by decide) (by decide)

def orderItems : SequencedTable :=
  ofNames "orders_items" "item" (by decide) (by decide)

def singlePlan (name column sequence : String) : CreateTablePlan where
  tableName := name
  createTable := "CREATE TABLE \"" ++ name ++ "\" (\"" ++ column ++ "\" INTEGER " ++
    "DEFAULT NEXTVAL('\"" ++ sequence ++ "\"'), PRIMARY KEY (\"" ++ column ++ "\"))"
  statementsBefore := ["CREATE SEQUENCE \"" ++ sequence ++ "\""]

theorem arePlans_orders :
    ArePlans false [orders, orderItems]
      [singlePlan "orders" "item" "orders_item_seq",
        singlePlan "orders_items" "item" "orders_items_item_seq"] :=
  .cons (by decide +kernel) (.cons (by decide +kernel) .nil)

theorem createTable_sequences_orders :
    KeepsApart [orders, orderItems]
      [singlePlan "orders" "item" "orders_item_seq",
        singlePlan "orders_items" "item" "orders_items_item_seq"] :=
  createTable_sequences (by decide) arePlans_orders

/-- Two tables that both ask for the sequence `a_b_c_seq`. -/
def shortTable : SequencedTable :=
  ofNames "a" "b_c" (by decide) (by decide)

def longTable : SequencedTable :=
  ofNames "a_b" "c" (by decide) (by decide)

/-- Their names differ, but not those of their sequences, so the second plan fails after the
first. -/
theorem createTable_sequences_shared :
    shortTable.name ≠ longTable.name ∧
      ArePlans false [shortTable, longTable]
        [singlePlan "a" "b_c" "a_b_c_seq", singlePlan "a_b" "c" "a_b_c_seq"] ∧
      createdSequences Dialect.postgres.quote (singlePlan "a" "b_c" "a_b_c_seq").statements =
        createdSequences Dialect.postgres.quote (singlePlan "a_b" "c" "a_b_c_seq").statements ∧
      (Database.mk ∅ ∅).run Dialect.postgres.quote
        ((singlePlan "a" "b_c" "a_b_c_seq").statements ++
          (singlePlan "a_b" "c" "a_b_c_seq").statements) = none :=
  ⟨by decide, .cons (by decide +kernel) (.cons (by decide +kernel) .nil), by decide +kernel,
    by decide +kernel⟩

end SequencedTable

end SqlDialects
