import Mathlib.Algebra.BigOperators.Group.List.Basic
import SqlDialects.Proofs.Ddl.Defaults
import SqlDialects.Proofs.Ddl.Keys

/-!
# The constraints of a table

The key of a table and the columns that it calls unique stand after its columns, and a
column that takes no null says `NOT NULL` itself.  A key is unique without saying so.
The clause of uniqueness only asks whether the database makes the values of a field, so an
id that is no generated one and is called unique gets both constraints
(`createTable_constraints`).
-/

namespace SqlDialects

open Sql
open Text (Points)

namespace Sql

/-- Whether a text says some words one after the other, outside quotes. -/
def Says (phrase : List String) (read : List Lexeme) : Prop :=
  phrase.map symbols <:+: words read

instance (phrase : List String) (read : List Lexeme) : Decidable (Says phrase read) :=
  inferInstanceAs (Decidable (_ <:+: _))

theorem words_append_cons {lexeme : Lexeme} (hBreak : lexeme.isLetter = false)
    (first second : List Lexeme) :
    words (first ++ lexeme :: second) = words first ++ words second :=
  List.splitOnP_append_cons first second (by simp [hBreak])

theorem words_infix_joinReads {read : List Lexeme} {reads : List (List Lexeme)}
    (hMem : read ∈ reads) (hRead : read ≠ []) : words read <:+: words (joinReads reads) := by
  have hKept : read ∈ reads.filter (· ≠ []) := by simp [hMem, hRead]
  unfold joinReads
  generalize reads.filter (· ≠ []) = kept at hKept ⊢
  induction kept with
  | nil => cases hKept
  | cons first others ih =>
      cases others with
      | nil => simp [List.mem_singleton.1 hKept]
      | cons second others =>
          have hSpace : (symbols " ").intercalate (first :: second :: others) =
              first ++ .symbol ' ' :: (symbols " ").intercalate (second :: others) := by
            rw [List.intercalate_cons_cons, List.append_assoc]
            rfl
          rw [hSpace, words_append_cons rfl]
          rcases List.mem_cons.1 hKept with rfl | hOther
          · exact (List.prefix_append _ _).isInfix
          · exact (ih hOther).trans (List.suffix_append _ _).isInfix

theorem keywordCount_pos_of_says {phrase : List String} {keyword : String} {read : List Lexeme}
    (hSays : Says phrase read) (hKeyword : keyword ∈ phrase) : 0 < keywordCount keyword read :=
  List.count_pos_iff.2 (hSays.subset (List.mem_map_of_mem hKeyword))

end Sql

namespace Dialect

/-! ## Columns without nulls -/

def negation : String := "NOT"

theorem isNoType_negation : IsNoType negation 'O' where
  letter := by decide
  numeral := by decide
  usual := by decide
  name := by
    simp only [builtin, List.forall_mem_cons, List.not_mem_nil, false_imp_iff, implies_true,
      and_true]
    decide

theorem IsDefault.count_negation {read : List Lexeme} (hDefault : IsDefault read) :
    keywordCount negation read = 0 := by
  rcases hDefault with rfl | ⟨value, rfl, hValue⟩
  · exact keywordCount_nil (by decide)
  · rw [isNoType_negation.count_default hValue]
    decide

theorem count_identityLexemes_negation (dialect : Dialect) (tableName : String)
    (field : FieldSpec) :
    keywordCount negation (dialect.identityLexemes tableName field) = 0 := by
  have hNothing : keywordCount negation [] = 0 := keywordCount_nil (by decide)
  unfold identityLexemes
  split
  · cases dialect.idGeneration with
    | none => exact hNothing
    | sequence =>
        dsimp only
        rw [isNoType_negation.count_nextval]
        decide
    | autoIncrement => exact (by decide : keywordCount negation (symbols "AUTO_INCREMENT") = 0)
    | identity => exact (by decide : keywordCount negation (symbols "IDENTITY") = 0)
    | inlineAutoincrement =>
        exact (by decide : keywordCount negation (symbols "PRIMARY KEY AUTOINCREMENT") = 0)
  · exact hNothing

theorem says_notNull_columnLexemes {dialect : Dialect} (hBuiltin : dialect ∈ builtin)
    (tableName : String) {field : FieldSpec} {typeText : String}
    (hType : dialect.columnType field = .ok typeText) {default : List Lexeme}
    (hDefault : IsDefault default) :
    Says [negation, "NULL"] (dialect.columnLexemes tableName field typeText default) ↔
      field.nullable = false ∧ field.isGeneratedId = false := by
  constructor
  case mp =>
    intro hSays
    have hPos := keywordCount_pos_of_says hSays (List.mem_cons_self ..)
    by_contra hNot
    have hConstraint : constraintText field = "" := by
      rw [constraintText, if_pos]
      by_cases hNullable : field.nullable = true <;> simp_all
    have hName : keywordCount negation [.name field.column] = 0 :=
      keywordCount_eq_zero isNoType_negation.letter (by simp)
    have hEmpty : keywordCount negation (symbols "") = 0 := by decide
    rw [columnLexemes, keywordCount_joinReads (by decide), hConstraint] at hPos
    simp [hName, isNoType_negation.count_columnType hBuiltin hType, hDefault.count_negation,
      count_identityLexemes_negation, hEmpty] at hPos
  case mpr =>
    rintro ⟨hNullable, hGenerated⟩
    have hConstraint : constraintText field = "NOT NULL" := by
      simp [constraintText, hNullable, hGenerated]
    have hWords : [negation, "NULL"].map symbols = words (symbols "NOT NULL") := by decide
    rw [Says, hWords, columnLexemes, hConstraint]
    exact words_infix_joinReads (by simp) (by decide)

/-! ## Constraints after the columns -/

/-- What the constraints that a field calls for are read as. -/
def constraintItems (dialect : Dialect) (field : FieldSpec) : List (List Lexeme) :=
  (if field.isId ∧ ¬dialect.HasInlineKey field then [keyItem field.column] else [])
    ++ if field.unique ∧ ¬field.isId then [uniqueItem field.column] else []

/-- A second constraint on a column that is the key already. -/
def redundantItems (field : FieldSpec) : List (List Lexeme) :=
  if field.id ∧ field.unique then [uniqueItem field.column] else []

theorem isGeneratedId_eq_false_of_id {field : Field} (hId : field.id = true) :
    field.isGeneratedId = false := by
  have hFlags := field.oneIdFlag
  cases hGenerated : field.generatedId <;> cases hSequence : field.generatedIdSequence <;>
    simp_all [FieldSpec.idFlagCount, FieldSpec.isGeneratedId]

theorem argumentItems_eq (dialect : Dialect) (field : Field) :
    dialect.argumentItems field.toFieldSpec =
      dialect.constraintItems field.toFieldSpec ++ redundantItems field.toFieldSpec := by
  rw [argumentItems, constraintItems, redundantItems, List.append_assoc]
  congr 1
  cases hId : field.id with
  | false => by_cases hGenerated : field.isGeneratedId = true <;>
      simp [FieldSpec.isId, hId, hGenerated]
  | true => simp [FieldSpec.isId, hId, isGeneratedId_eq_false_of_id hId]

theorem redundantItems_eq_nil_iff (field : FieldSpec) :
    redundantItems field = [] ↔ ¬(field.id = true ∧ field.unique = true) := by
  simp [redundantItems]

theorem flatMap_append_eq_iff {α β : Type} (first second : α → List β) (items : List α) :
    (items.flatMap fun item => first item ++ second item) = items.flatMap first ↔
      ∀ item ∈ items, second item = [] := by
  constructor
  · intro hEqual
    have hLength := congrArg List.length hEqual
    simp only [List.length_flatMap, List.length_append, List.sum_map_add] at hLength
    have hNone : (items.map fun item => (second item).length).sum = 0 := by omega
    intro item hItem
    exact List.eq_nil_of_length_eq_zero
      (List.sum_eq_zero_iff_forall_eq_nat.1 hNone _ (List.mem_map_of_mem hItem))
  · intro hNone
    exact List.flatMap_congr fun item hItem => by rw [hNone item hItem, List.append_nil]

/-! ## The theorem -/

/-- The constraints of a table in the parts of its statement.  All of them are those of the
fields, in order, and those of ids that are called unique. -/
structure HasConstraints (dialect : Dialect) (fields : List Field)
    (columns arguments : List (List Lexeme)) : Prop where
  all : arguments = fields.flatMap fun field =>
    dialect.constraintItems field.toFieldSpec ++ redundantItems field.toFieldSpec
  expected : (arguments = fields.flatMap fun field => dialect.constraintItems field.toFieldSpec) ↔
    ∀ field ∈ fields, ¬(field.id = true ∧ field.unique = true)
  inline : ∀ field ∈ fields, dialect.HasInlineKey field.toFieldSpec ↔
    dialect = sqlite ∧ field.isGeneratedId = true
  notNull : List.Forall₂ (fun field column => Says ["NOT", "NULL"] column ↔
    field.nullable = false ∧ field.isGeneratedId = false) fields columns

theorem ReadsEach.eq_of_fragments {quote : Char} {texts : List Points}
    {items others : List (List Lexeme)} (hItems : ReadsEach quote texts items)
    (hOthers : List.Forall₂ (Fragment quote) texts others) : items = others := by
  induction hItems generalizing others with
  | nil => cases hOthers; rfl
  | cons hItem _ ih =>
      cases hOthers with
      | cons hOther hRest =>
          rw [hOther.reads.lexemes_eq] at hItem
          rw [Option.some.inj hItem, ih hRest]

theorem notNull_columns {dialect : Dialect} (hBuiltin : dialect ∈ builtin) {tableName : String}
    {fields : List Field} {texts : List Points}
    (hTexts : dialect.ColumnTexts tableName fields texts) {columns : List (List Lexeme)}
    (hColumns : ReadsEach dialect.quote texts columns) :
    List.Forall₂ (fun field column => Says ["NOT", "NULL"] column ↔
      field.nullable = false ∧ field.isGeneratedId = false) fields columns := by
  induction hTexts generalizing columns with
  | nil => cases hColumns; exact .nil
  | cons hText _ ih =>
      cases hColumns with
      | cons hColumn hRest =>
          obtain ⟨typeText, default, hType, hDefault, hFragment⟩ :=
            columnText_fragment (isOrdinary_of_mem_builtin hBuiltin) hText
          rw [hFragment.reads.lexemes_eq] at hColumn
          rw [← Option.some.inj hColumn]
          exact .cons (says_notNull_columnLexemes hBuiltin tableName hType hDefault) (ih hRest)

section

variable {dialect : Dialect} {table : Table} {ifNotExists : Bool} {plan : CreateTablePlan}

/-- After the columns stand the key, where no column is the key itself, and the unique
columns, in the order of the fields.  There is nothing else if and only if no id that is
given a value is called unique; such an id has a constraint more.  A column says `NOT NULL`
if and only if its field takes no null and the database does not make its values. -/
theorem createTable_constraints (hBuiltin : dialect ∈ builtin)
    (hPlan : dialect.createTable table ifNotExists = .ok plan) :
    ∃ texts context columns arguments,
      (dialect.columnDefinitions table.fields).runIn { tableName := table.name } =
          (.ok texts, context) ∧
        TableReading.ofText? dialect.quote (createTableHead ifNotExists) plan.createTable =
          some ⟨table.name, columns ++ arguments, symbols dialect.tableSuffix⟩ ∧
        ReadsEach dialect.quote texts columns ∧
        ReadsEach dialect.quote context.additionalArgs arguments ∧
        dialect.HasConstraints table.fields columns arguments := by
  have hOrdinary := isOrdinary_of_mem_builtin hBuiltin
  obtain ⟨texts, context, columns, arguments, hRun, hReading, hColumns, hArguments, -, -⟩ :=
    exists_tableReading hOrdinary hPlan
  refine ⟨texts, context, columns, arguments, hRun, hReading, hColumns, hArguments, ?_⟩
  obtain ⟨hTexts, rfl⟩ := (columnDefinitions_runIn_eq_ok_iff ..).1 hRun
  have hAll : arguments = table.fields.flatMap fun field =>
      dialect.constraintItems field.toFieldSpec ++ redundantItems field.toFieldSpec := by
    simp only [foldl_collect, List.nil_append, List.flatMap_map] at hArguments
    rw [hArguments.eq_of_fragments (argumentItems_fragment hOrdinary table.fields)]
    exact List.flatMap_congr fun field _ => argumentItems_eq dialect field
  constructor
  case all => exact hAll
  case expected =>
    rw [hAll, flatMap_append_eq_iff]
    simp only [redundantItems_eq_nil_iff]
  case inline => exact fun field _ => hasInlineKey_iff hBuiltin field.toFieldSpec
  case notNull => exact notNull_columns hBuiltin hTexts hColumns

end

theorem createTable_constraints_awkwardTable :
    ∃ texts context columns arguments,
      (postgres.columnDefinitions awkwardTable.fields).runIn { tableName := awkwardTable.name } =
          (.ok texts, context) ∧
        TableReading.ofText? postgres.quote (createTableHead false) awkwardPlan.createTable =
          some ⟨awkwardTable.name, columns ++ arguments, symbols postgres.tableSuffix⟩ ∧
        ReadsEach postgres.quote texts columns ∧
        ReadsEach postgres.quote context.additionalArgs arguments ∧
        postgres.HasConstraints awkwardTable.fields columns arguments :=
  createTable_constraints postgres_mem_builtin createTable_awkwardTable

/-- An id that is given a value and is called unique. -/
def uniqueId : Field where
  name := "code"
  sqlType := .int
  width := 0
  columnName := none
  id := true
  generatedId := false
  generatedIdSequence := none
  allowGeneratedIdInsert := false
  nullable := true
  unique := true
  default := none
  name_ne_empty := by decide
  oneIdFlag := by decide
  insertNeedsGeneratedId := by decide

def uniqueIdTable : Table where
  name := "codes"
  fields := [uniqueId]
  name_ne_empty := by decide
  fields_ne_nil := by decide
  columns_nodup := by decide
  oneId := by decide

def uniqueIdPlan : CreateTablePlan where
  tableName := "codes"
  createTable :=
    "CREATE TABLE \"codes\" (\"code\" INTEGER, PRIMARY KEY (\"code\"), UNIQUE (\"code\"))"

/-- The table of that id has two constraints on its column, and only the key is called for. -/
theorem createTable_repeatsConstraint :
    postgres.createTable uniqueIdTable false = .ok uniqueIdPlan ∧
      (TableReading.ofText? postgres.quote (createTableHead false) uniqueIdPlan.createTable).map
          (fun reading => reading.items.drop uniqueIdTable.fields.length) =
        some [keyItem "code", uniqueItem "code"] ∧
      (uniqueIdTable.fields.flatMap fun field => postgres.constraintItems field.toFieldSpec) =
        [keyItem "code"] :=
  ⟨rfl, by decide, by decide⟩

end Dialect

end SqlDialects
