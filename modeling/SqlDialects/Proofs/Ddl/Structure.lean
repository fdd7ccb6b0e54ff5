import SqlDialects.Proofs.Ddl.Clauses
import SqlDialects.Proofs.Ddl.Rendering

/-!
# The structure of table creation

A reader of the text that creates a table knows the quote of the dialect, counts
parentheses outside quotes and splits the inside of the group at its commas.
Whatever the names and the defaults of a table hold, such a reader finds the table,
one item for each field and one for each additional argument, and after the group
nothing but the suffix of the dialect (`createTable_reading`).
-/

namespace SqlDialects

open Sql
open Text (Points)

/-- What a reader finds in a text that creates a table. -/
structure TableReading where
  table : Points
  items : List (List Lexeme)
  after : List Lexeme
deriving DecidableEq, Repr

namespace TableReading

/-- Reads a table, a space and a group after certain words. -/
def ofLexemes? (words read : List Lexeme) : Option TableReading :=
  match read.dropPrefix? words with
  | some (.name table :: .symbol (.char ' ') :: .symbol (.char '(') :: rest) =>
    (closeGroup? 0 rest).map fun (inside, after) =>
      ⟨table, (splitItems 0 inside).map withoutIndent, after⟩
  | _ => none

def ofText? (quote : Char) (head : String) (text : Points) : Option TableReading :=
  (lexemes quote text).bind (ofLexemes? (symbols head))

theorem ofLexemes?_intercalate {items : List (List Lexeme)} (hItems : items ≠ [])
    (hClauses : ∀ item ∈ items, Clause item) (hStarts : ∀ item ∈ items, withoutIndent item = item)
    (words : List Lexeme) (table : Points) (after : List Lexeme) :
    ofLexemes? words (words ++ .name table :: .symbol ' ' :: .symbol '(' ::
      ((symbols ", ").intercalate items ++ .symbol ')' :: after)) =
        some ⟨table, items, after⟩ := by
  have hWords := List.dropPrefix?_append_of_beq (.name table :: .symbol ' ' :: .symbol '(' ::
    ((symbols ", ").intercalate items ++ .symbol ')' :: after)) (beq_self_eq_true words)
  rw [ofLexemes?, hWords]
  simp only [closeGroup?_intercalate hClauses, splitItems_intercalate hItems hClauses hStarts,
    Option.map_some]

end TableReading

namespace Dialect

def createTableHead (ifNotExists : Bool) : String :=
  if ifNotExists then "CREATE TABLE IF NOT EXISTS " else "CREATE TABLE "

/-! ## The whole text -/

theorem createTableText_lexemes {dialect : Dialect} (hOrdinary : dialect.IsOrdinary)
    (ifNotExists : Bool) {texts : List Points} {context : DdlContext} {items : List (List Lexeme)}
    (hItems : List.Forall₂ (Fragment dialect.quote) (texts ++ context.additionalArgs) items) :
    lexemes dialect.quote (dialect.createTableText ifNotExists texts context) =
      some (symbols (createTableHead ifNotExists) ++ .name context.tableName :: .symbol ' ' ::
        .symbol '(' :: ((symbols ", ").intercalate items ++
          .symbol ')' :: symbols dialect.tableSuffix)) := by
  have hQuote := hOrdinary.quote
  have hMarks : IsPlain dialect.quote (Points.ofString " (").toList ∧
      IsPlain dialect.quote (Points.ofString ")").toList ∧
      IsPlain dialect.quote (Points.ofString ", ").toList := by
    rcases hQuote with hQuote | hQuote <;> simp [hQuote, IsPlain]
  obtain ⟨hOpening, hClosing, hComma⟩ := hMarks
  have hHead : IsPlain dialect.quote (Points.ofString (createTableHead ifNotExists)).toList := by
    apply IsWord.isPlain _ hQuote
    cases ifNotExists <;> decide
  have hEnd : Reads dialect.quote
      ((Points.ofString ")").toList ++ (Points.ofString dialect.tableSuffix).toList)
      (symbols ")" ++ symbols dialect.tableSuffix) :=
    Reads.plain_append hClosing (Reads.plain (hOrdinary.suffix.isPlain hQuote))
  have hInside := Reads.intercalate hComma (by decide)
    (List.forall₂_map_left_iff.2 (hItems.imp fun _ _ hItem => hItem.reads))
  have hGroup := Reads.plain_append hOpening (hInside.append hEnd fun rest _ => by
    rw [List.append_assoc]
    exact hClosing.startsPlain_append (by decide) _)
  have hNamed := (Reads.name dialect.quote context.tableName).append hGroup fun rest _ => by
    rw [List.append_assoc]
    exact hOpening.startsPlain_append (by decide) _
  apply Reads.lexemes_eq
  have hText := Reads.plain_append hHead hNamed
  simpa [createTableText, createTableHead, quoteIdentifier, symbols] using hText

/-- Items that do not start with a space are found again after the head and the table. -/
theorem createTableText_reading {dialect : Dialect} (hOrdinary : dialect.IsOrdinary)
    (ifNotExists : Bool) {texts : List Points} {context : DdlContext} {items : List (List Lexeme)}
    (hItems : List.Forall₂ (Fragment dialect.quote) (texts ++ context.additionalArgs) items)
    (hNonempty : items ≠ []) (hStarts : ∀ item ∈ items, withoutIndent item = item) :
    TableReading.ofText? dialect.quote (createTableHead ifNotExists)
        (dialect.createTableText ifNotExists texts context) =
      some ⟨context.tableName, items, symbols dialect.tableSuffix⟩ := by
  have hClauses := forall_of_forall₂ hItems fun _ _ hItem => hItem.clause
  rw [TableReading.ofText?, createTableText_lexemes hOrdinary ifNotExists hItems, Option.bind_some]
  exact TableReading.ofLexemes?_intercalate hNonempty hClauses hStarts _ _ _

/-! ## Items -/

/-- The item of a column starts with its name and holds what makes it an id. -/
def IsColumnItem (dialect : Dialect) (tableName : String) (field : Field) (item : List Lexeme) :
    Prop :=
  ∃ definition, item = .name field.column :: .symbol ' ' :: definition ∧
    dialect.identityLexemes tableName field.toFieldSpec <:+: definition

/-- The item of an additional argument makes the column of a field a key. -/
def IsKeyItem (fields : List Field) (item : List Lexeme) : Prop :=
  ∃ field ∈ fields, ∃ opening ∈ ["PRIMARY KEY (", "UNIQUE ("],
    item = symbols opening ++ [.name field.column, .symbol ')']

theorem exists_columnItems {dialect : Dialect} (hOrdinary : dialect.IsOrdinary)
    {tableName : String} {fields : List Field} {texts : List Points}
    (hTexts : dialect.ColumnTexts tableName fields texts) :
    ∃ items, List.Forall₂ (Fragment dialect.quote) texts items ∧
      List.Forall₂ (dialect.IsColumnItem tableName) fields items := by
  induction hTexts with
  | nil => exact ⟨[], .nil, .nil⟩
  | cons hText _ ih =>
      obtain ⟨items, hItems, hColumns⟩ := ih
      obtain ⟨typeText, default, hType, -, hItem⟩ := columnText_fragment hOrdinary hText
      obtain ⟨definition, hDefinition, hIdentity⟩ :=
        columnLexemes_eq_cons hOrdinary hType default
      exact ⟨_ :: items, .cons hItem hItems, .cons ⟨definition, hDefinition, hIdentity⟩ hColumns⟩

theorem exists_keyItems {dialect : Dialect} (hOrdinary : dialect.IsOrdinary) {fields : List Field}
    {arguments : List Points}
    (hArguments : ∀ argument ∈ arguments, ∃ field ∈ fields,
      argument ∈ dialect.columnArguments field.toFieldSpec) :
    ∃ items, List.Forall₂ (Fragment dialect.quote) arguments items ∧
      ∀ item ∈ items, IsKeyItem fields item := by
  induction arguments with
  | nil => exact ⟨[], .nil, by simp⟩
  | cons argument arguments ih =>
      obtain ⟨items, hItems, hKeys⟩ := ih fun other hOther => hArguments other (by simp [hOther])
      obtain ⟨field, hField, hArgument⟩ := hArguments argument (by simp)
      obtain ⟨opening, hOpening, hItem⟩ := columnArgument_fragment hOrdinary hArgument
      refine ⟨_ :: items, .cons hItem hItems, ?_⟩
      rw [List.forall_mem_cons]
      exact ⟨⟨field, hField, opening, hOpening, rfl⟩, hKeys⟩

theorem IsColumnItem.withoutIndent_eq {dialect : Dialect} {tableName : String} {field : Field}
    {item : List Lexeme} (hItem : dialect.IsColumnItem tableName field item) :
    withoutIndent item = item := by
  obtain ⟨definition, rfl, -⟩ := hItem
  simp [withoutIndent]

theorem IsKeyItem.withoutIndent_eq {fields : List Field} {item : List Lexeme}
    (hItem : IsKeyItem fields item) : withoutIndent item = item := by
  obtain ⟨field, -, opening, hOpening, rfl⟩ := hItem
  simp only [List.mem_cons, List.not_mem_nil, or_false] at hOpening
  rcases hOpening with rfl | rfl <;> rfl

def ReadsEach (quote : Char) (texts : List Points) (items : List (List Lexeme)) : Prop :=
  List.Forall₂ (fun text item => lexemes quote text = some item) texts items

/-! ## The theorem -/

section

variable {dialect : Dialect} {table : Table} {ifNotExists : Bool} {plan : CreateTablePlan}

theorem exists_tableReading (hOrdinary : dialect.IsOrdinary)
    (hPlan : dialect.createTable table ifNotExists = .ok plan) :
    ∃ texts context columns arguments,
      (dialect.columnDefinitions table.fields).runIn { tableName := table.name } =
          (.ok texts, context) ∧
        TableReading.ofText? dialect.quote (createTableHead ifNotExists) plan.createTable =
          some ⟨table.name, columns ++ arguments, symbols dialect.tableSuffix⟩ ∧
        ReadsEach dialect.quote texts columns ∧
        ReadsEach dialect.quote context.additionalArgs arguments ∧
        List.Forall₂ (dialect.IsColumnItem table.name) table.fields columns ∧
        ∀ argument ∈ arguments, IsKeyItem table.fields argument := by
  obtain ⟨-, texts, hTexts, rfl⟩ := (dialect.createTable_eq_ok_iff table ifNotExists plan).1 hPlan
  let context := (table.fields.map Field.toFieldSpec).foldl dialect.collect
    { tableName := table.name }
  have hName : context.tableName = table.name := by simp [context, foldl_collect]
  have hArguments : ∀ argument ∈ context.additionalArgs, ∃ field ∈ table.fields,
      argument ∈ dialect.columnArguments field.toFieldSpec := by
    simp [context, foldl_collect]
  obtain ⟨columns, hColumnTexts, hColumns⟩ := exists_columnItems hOrdinary hTexts
  obtain ⟨arguments, hArgumentTexts, hKeys⟩ := exists_keyItems hOrdinary hArguments
  have hItems := List.rel_append hColumnTexts hArgumentTexts
  have hNonempty : columns ++ arguments ≠ [] := by
    have hLength := hColumns.length_eq
    have hFields := List.length_pos_of_ne_nil table.fields_ne_nil
    apply List.ne_nil_of_length_pos
    rw [List.length_append]
    omega
  have hStarts : ∀ item ∈ columns ++ arguments, withoutIndent item = item := by
    intro item hItem
    rcases List.mem_append.1 hItem with hColumn | hArgument
    · exact forall_of_forall₂ hColumns (fun _ _ hShape => hShape.withoutIndent_eq) item hColumn
    · exact (hKeys item hArgument).withoutIndent_eq
  refine ⟨texts, context, columns, arguments, ?_, ?_, ?_, ?_, hColumns, hKeys⟩
  · exact (dialect.columnDefinitions_runIn_eq_ok_iff table.fields texts _ _).2 ⟨hTexts, rfl⟩
  · have hText := createTableText_reading hOrdinary ifNotExists hItems hNonempty hStarts
    rwa [hName] at hText
  · exact hColumnTexts.imp fun _ _ hItem => hItem.reads.lexemes_eq
  · exact hArgumentTexts.imp fun _ _ hItem => hItem.reads.lexemes_eq

/-- On a built-in dialect the reader finds the table, its columns in the order of the
fields, the additional arguments and the suffix.  Each item is what its own text is read as. -/
theorem createTable_reading (hBuiltin : dialect ∈ builtin)
    (hPlan : dialect.createTable table ifNotExists = .ok plan) :
    ∃ texts context columns arguments,
      (dialect.columnDefinitions table.fields).runIn { tableName := table.name } =
          (.ok texts, context) ∧
        TableReading.ofText? dialect.quote (createTableHead ifNotExists) plan.createTable =
          some ⟨table.name, columns ++ arguments, symbols dialect.tableSuffix⟩ ∧
        ReadsEach dialect.quote texts columns ∧
        ReadsEach dialect.quote context.additionalArgs arguments ∧
        List.Forall₂ (dialect.IsColumnItem table.name) table.fields columns ∧
        ∀ argument ∈ arguments, IsKeyItem table.fields argument :=
  exists_tableReading (isOrdinary_of_mem_builtin hBuiltin) hPlan

end

/-! ## Names that try to leave their quotes -/

def awkwardId : Field where
  name := "id"
  sqlType := .int
  width := 0
  columnName := some "i\"),d"
  id := false
  generatedId := false
  generatedIdSequence := some "s'\"q"
  allowGeneratedIdInsert := false
  nullable := false
  unique := false
  default := none
  name_ne_empty := by decide
  oneIdFlag := by decide
  insertNeedsGeneratedId := by decide

def awkwardNote : Field where
  name := "note"
  sqlType := .longString
  width := 0
  columnName := none
  id := false
  generatedId := false
  generatedIdSequence := none
  allowGeneratedIdInsert := false
  nullable := true
  unique := true
  default := some "x'), ("
  name_ne_empty := by decide
  oneIdFlag := by decide
  insertNeedsGeneratedId := by decide

def awkwardTable : Table where
  name := "t\", ("
  fields := [awkwardId, awkwardNote]
  name_ne_empty := by decide
  fields_ne_nil := by decide
  columns_nodup := by decide
  oneId := by decide

def awkwardPlan : CreateTablePlan where
  tableName := "t\", ("
  createTable :=
    .ofString ("CREATE TABLE \"t\"\", (\" (\"i\"\"),d\" INTEGER DEFAULT NEXTVAL('\"s''\"\"q\"')" ++
      ", \"note\" TEXT DEFAULT 'x''), (', PRIMARY KEY (\"i\"\"),d\"), UNIQUE (\"note\"))")
  statementsBefore := ["CREATE SEQUENCE \"s'\"\"q\""]

theorem createTable_awkwardTable :
    postgres.createTable awkwardTable false = .ok awkwardPlan := by
  decide +kernel

theorem postgres_mem_builtin : postgres ∈ builtin := by
  simp [builtin]

theorem createTable_reading_awkwardTable :
    ∃ texts context columns arguments,
      (postgres.columnDefinitions awkwardTable.fields).runIn { tableName := awkwardTable.name } =
          (.ok texts, context) ∧
        TableReading.ofText? postgres.quote (createTableHead false) awkwardPlan.createTable =
          some ⟨awkwardTable.name, columns ++ arguments, symbols postgres.tableSuffix⟩ ∧
        ReadsEach postgres.quote texts columns ∧
        ReadsEach postgres.quote context.additionalArgs arguments ∧
        List.Forall₂ (postgres.IsColumnItem awkwardTable.name) awkwardTable.fields columns ∧
        ∀ argument ∈ arguments, IsKeyItem awkwardTable.fields argument :=
  createTable_reading postgres_mem_builtin createTable_awkwardTable

end Dialect

end SqlDialects
