import Mathlib.Data.List.Infix
import SqlDialects.Proofs.Ddl.Companions

/-!
# The key of a table

A column becomes the primary key through an argument of its table or, on a dialect that
increments ids inside their columns, through words of its own definition.  Of all the words
that a dialect writes only those of a key hold the letter `K`, so the keys of a statement
are counted by that letter, whatever its names and literals hold.
-/

namespace SqlDialects

open Sql
open Text (Points)

namespace Sql

/-! ## Occurrences -/

/-- At how many places of a text a pattern starts. -/
def occurrences (pattern read : List Lexeme) : Nat :=
  read.tails.countP fun tail => pattern.isPrefixOf tail

theorem countP_tails_getElem? (read : List Lexeme) (index : Nat) (mark : Lexeme) :
    (read.tails.countP fun tail => tail[index]? == some mark) = (read.drop index).count mark := by
  induction read with
  | nil => simp
  | cons lexeme read ih =>
      rw [List.tails_cons, List.countP_cons, ih]
      cases index with
      | zero => simp [List.count_cons]
      | succ index =>
          rw [List.drop_succ_cons, List.getElem?_cons_succ]
          by_cases hIndex : index < read.length
          · rw [List.drop_eq_getElem_cons hIndex, List.count_cons]
            simp [List.getElem?_eq_getElem hIndex]
          · simp [List.drop_eq_nil_of_le (Nat.le_of_not_lt hIndex),
              List.drop_eq_nil_of_le (Nat.le_succ_of_le (Nat.le_of_not_lt hIndex)),
              List.getElem?_eq_none (Nat.le_of_not_lt hIndex)]

theorem occurrences_le_count {pattern : List Lexeme} {index : Nat} {mark : Lexeme}
    (hMark : pattern[index]? = some mark) (read : List Lexeme) :
    occurrences pattern read ≤ read.count mark := by
  calc occurrences pattern read
      ≤ read.tails.countP fun tail => tail[index]? == some mark := by
        apply List.countP_mono_left
        intro tail _ hPrefix
        obtain ⟨rest, rfl⟩ := List.isPrefixOf_iff_prefix.1 hPrefix
        have hShort : index < pattern.length := (List.getElem?_eq_some_iff.1 hMark).1
        simp [List.getElem?_append_left hShort, hMark]
    _ = (read.drop index).count mark := countP_tails_getElem? read index mark
    _ ≤ read.count mark := (List.drop_sublist index read).count_le mark

theorem occurrences_pos {pattern read : List Lexeme} (hInfix : pattern <:+: read) :
    0 < occurrences pattern read := by
  obtain ⟨tail, hPrefix, hSuffix⟩ := List.infix_iff_prefix_suffix.1 hInfix
  exact List.countP_pos_iff.2
    ⟨tail, (List.mem_tails _ _).2 hSuffix, List.isPrefixOf_iff_prefix.2 hPrefix⟩

def primaryKey : List Lexeme :=
  symbols "PRIMARY KEY"

/-- The letter by which keys are counted. -/
def keyLetter : Lexeme :=
  .symbol 'K'

theorem occurrences_primaryKey_le (read : List Lexeme) :
    occurrences primaryKey read ≤ read.count keyLetter :=
  occurrences_le_count (show primaryKey[8]? = some keyLetter by decide) read

theorem occurrences_primaryKey_eq_one {read : List Lexeme} (hCount : read.count keyLetter = 1)
    (hInfix : primaryKey <:+: read) : occurrences primaryKey read = 1 := by
  have hPos := occurrences_pos hInfix
  have hLe := occurrences_primaryKey_le read
  omega

theorem count_intercalate {separator : List Lexeme} {mark : Lexeme}
    (hSeparator : separator.count mark = 0) (items : List (List Lexeme)) :
    (separator.intercalate items).count mark = items.flatten.count mark := by
  induction items with
  | nil => simp
  | cons item items ih =>
      cases items with
      | nil => simp
      | cons other items =>
          rw [List.intercalate_cons_cons, List.count_append, List.count_append, hSeparator, ih]
          simp

theorem count_symbols_eq_zero {text : String} {c : Char} (hText : c ∉ text.toList) :
    (symbols text).count (.symbol c) = 0 :=
  List.count_eq_zero.2 fun hMem => hText (symbol_mem_symbols.1 hMem)

end Sql

namespace Dialect

/-! ## The letters of a dialect -/

/-- Nothing that a dialect writes of its own holds the letter by which keys are counted. -/
structure SpellsNoKey (dialect : Dialect) : Prop where
  typeName : ∀ name ∈ dialect.typeNameList, 'K' ∉ name.toList
  suffix : 'K' ∉ dialect.tableSuffix.toList

theorem spellsNoKey_of_mem_builtin {dialect : Dialect} (hBuiltin : dialect ∈ builtin) :
    dialect.SpellsNoKey := by
  simp only [builtin, List.mem_cons, List.not_mem_nil, or_false] at hBuiltin
  rcases hBuiltin with rfl | rfl | rfl | rfl <;> constructor <;> decide

theorem not_mem_of_isNumeral {text : List Char} (hText : IsNumeral text) : 'K' ∉ text := by
  intro hMem
  have hChar := hText 'K' hMem
  contradiction

theorem varchar_spellsNoKey {usual width : Nat} {typeText : String}
    (hType : varchar usual width = .ok typeText) : 'K' ∉ typeText.toList := by
  obtain ⟨widthText, hNumeral, rfl⟩ := exists_width_of_varchar hType
  have hDigits := not_mem_of_isNumeral hNumeral
  simpa using hDigits

theorem columnType_spellsNoKey {dialect : Dialect} (hNoKey : dialect.SpellsNoKey)
    {field : FieldSpec} {typeText : String} (hType : dialect.columnType field = .ok typeText) :
    'K' ∉ typeText.toList := by
  have hName := hNoKey.typeName
  simp only [typeNameList, List.mem_cons, List.not_mem_nil, or_false, forall_eq_or_imp,
    forall_eq] at hName
  obtain ⟨hBoolean, hDate, hByte, hByteArray, hLong⟩ := hName
  unfold columnType at hType
  cases hSql : field.sqlType <;> simp only [hSql, Except.ok.injEq] at hType
  case string => exact varchar_spellsNoKey hType
  case uuid => exact varchar_spellsNoKey hType
  case long =>
    rw [← hType]
    split
    · exact hLong
    · decide
  all_goals
    rw [← hType]
    first
      | decide
      | assumption

theorem IsDefault.count_keyLetter {read : List Lexeme} (hDefault : IsDefault read) :
    read.count keyLetter = 0 := by
  rcases hDefault with rfl | ⟨value, rfl, hValue⟩
  · rfl
  · have hWord : (symbols "DEFAULT ").count keyLetter = 0 := by decide
    rw [List.count_append, hWord, Nat.zero_add]
    rcases hValue with ⟨content, rfl⟩ | ⟨word, hNumeral, rfl⟩
    · simp [keyLetter]
    · exact count_symbols_eq_zero (not_mem_of_isNumeral hNumeral)

/-! ## Keys of columns -/

/-- Whether the words of its own definition make a column the key. -/
def HasInlineKey (dialect : Dialect) (field : FieldSpec) : Prop :=
  field.isGeneratedId = true ∧ dialect.idGeneration = .inlineAutoincrement

instance (dialect : Dialect) (field : FieldSpec) : Decidable (dialect.HasInlineKey field) :=
  inferInstanceAs (Decidable (_ ∧ _))

theorem count_identityLexemes (dialect : Dialect) (tableName : String) (field : FieldSpec) :
    (dialect.identityLexemes tableName field).count keyLetter =
      if dialect.HasInlineKey field then 1 else 0 := by
  by_cases hInline : dialect.HasInlineKey field
  · obtain ⟨hGenerated, hGeneration⟩ := hInline
    rw [if_pos ⟨hGenerated, hGeneration⟩, identityLexemes, if_pos hGenerated]
    simp only [hGeneration]
    decide
  · rw [if_neg hInline, identityLexemes]
    split
    · next hGenerated =>
      cases hGeneration : dialect.idGeneration with
      | none => rfl
      | sequence =>
          have hWords : (symbols "DEFAULT NEXTVAL(").count keyLetter = 0 := by decide
          dsimp only
          rw [List.count_append, hWords]
          simp [keyLetter]
      | autoIncrement =>
          dsimp only
          decide
      | identity =>
          dsimp only
          decide
      | inlineAutoincrement => exact absurd ⟨hGenerated, hGeneration⟩ hInline
    · rfl

theorem count_joinReads (reads : List (List Lexeme)) :
    (joinReads reads).count keyLetter = reads.flatten.count keyLetter := by
  rw [joinReads, count_intercalate (by decide)]
  induction reads with
  | nil => rfl
  | cons read reads ih =>
      by_cases hEmpty : read = []
      · simpa [hEmpty] using ih
      · simpa [hEmpty] using ih

theorem count_columnLexemes {dialect : Dialect} (hNoKey : dialect.SpellsNoKey)
    (tableName : String) {field : FieldSpec} {typeText : String}
    (hType : dialect.columnType field = .ok typeText) {default : List Lexeme}
    (hDefault : IsDefault default) :
    (dialect.columnLexemes tableName field typeText default).count keyLetter =
      if dialect.HasInlineKey field then 1 else 0 := by
  have hTypeText : (symbols typeText).count keyLetter = 0 :=
    count_symbols_eq_zero (columnType_spellsNoKey hNoKey hType)
  have hConstraint : (symbols (constraintText field)).count keyLetter = 0 := by
    unfold constraintText
    split <;> decide
  have hName : List.count keyLetter [.name field.column] = 0 := by
    simp [keyLetter]
  rw [columnLexemes, count_joinReads]
  simp only [List.flatten_cons, List.flatten_nil, List.count_append, List.count_nil, hName,
    hTypeText, hDefault.count_keyLetter, count_identityLexemes, hConstraint]
  omega

end Dialect

namespace Dialect

/-! ## Items of the table -/

def keyItem (column : Points) : List Lexeme :=
  symbols "PRIMARY KEY (" ++ [.name column, .symbol ')']

def uniqueItem (column : Points) : List Lexeme :=
  symbols "UNIQUE (" ++ [.name column, .symbol ')']

/-- What the arguments that a field adds to its table are read as. -/
def argumentItems (dialect : Dialect) (field : FieldSpec) : List (List Lexeme) :=
  (if field.isId ∧ ¬dialect.HasInlineKey field then [keyItem field.column] else [])
    ++ if ¬field.isGeneratedId ∧ field.unique then [uniqueItem field.column] else []

theorem columnArguments_fragment {dialect : Dialect} (hOrdinary : dialect.IsOrdinary)
    (field : FieldSpec) :
    List.Forall₂ (Fragment dialect.quote) (dialect.columnArguments field)
      (dialect.argumentItems field) := by
  rw [columnArguments, argumentItems]
  refine List.rel_append ?_ ?_
  · by_cases hKey : field.isId = true ∧ ¬dialect.HasInlineKey field
    · rw [if_pos hKey, keyArguments, if_pos (show _ ∧ ¬(_ ∧ _) from hKey)]
      have hWord : IsWord "PRIMARY KEY ".toList := by decide
      exact .cons (columnGroup_fragment hOrdinary field hWord rfl) .nil
    · rw [if_neg hKey, keyArguments, if_neg (show ¬(_ ∧ ¬(_ ∧ _)) from hKey)]
      exact .nil
  · unfold uniqueArguments
    split
    · have hWord : IsWord "UNIQUE ".toList := by decide
      exact .cons (columnGroup_fragment hOrdinary field hWord rfl) .nil
    · exact .nil

theorem count_argumentItems (dialect : Dialect) (field : FieldSpec) :
    (dialect.argumentItems field).flatten.count keyLetter =
      if field.isId ∧ ¬dialect.HasInlineKey field then 1 else 0 := by
  have hKey : (keyItem field.column).count keyLetter = 1 := by
    have hWords : (symbols "PRIMARY KEY (").count keyLetter = 1 := by decide
    rw [keyItem, List.count_append, hWords]
    simp [keyLetter]
  have hUnique : (uniqueItem field.column).count keyLetter = 0 := by
    have hWords : (symbols "UNIQUE (").count keyLetter = 0 := by decide
    rw [uniqueItem, List.count_append, hWords]
    simp [keyLetter]
  rw [argumentItems, List.flatten_append, List.count_append]
  split <;> split <;> simp [hKey, hUnique]

end Dialect

namespace Dialect

/-- The definition of a column that is declared exactly `INTEGER` and makes itself the key. -/
def IsInlineKey (column : Points) (item : List Lexeme) : Prop :=
  ∃ default, IsDefault default ∧ item = joinReads
    [[.name column], symbols "INTEGER", default, symbols "PRIMARY KEY AUTOINCREMENT"]

theorem columnType_sqlite {tableName : String} {field : FieldSpec} {text : Points}
    (hText : sqlite.columnText tableName field = .ok text)
    (hGenerated : field.isGeneratedId = true) : sqlite.columnType field = .ok "INTEGER" := by
  obtain ⟨-, -, identity, -, -, hIdentity, -⟩ := columnText_eq_ok_iff.1 hText
  have hLacks : sqlite.lacksSequence field = false := by
    simp [lacksSequence, sqlite]
  have hGeneration : sqlite.idGeneration = .inlineAutoincrement := rfl
  simp only [identityText, hGenerated, if_true, generationText, hLacks, Bool.false_eq_true,
    if_false, hGeneration] at hIdentity
  split at hIdentity
  · next hType =>
    rcases hType with hType | hType
    · simp [columnType, hType]
    · simp [columnType, hType, hGenerated, sqlite]
  · cases hIdentity

theorem isInlineKey_columnLexemes {tableName : String} {field : FieldSpec}
    (hGenerated : field.isGeneratedId = true) {default : List Lexeme}
    (hDefault : IsDefault default) :
    IsInlineKey field.column (sqlite.columnLexemes tableName field "INTEGER" default) := by
  refine ⟨default, hDefault, ?_⟩
  have hIdentity : sqlite.identityLexemes tableName field =
      symbols "PRIMARY KEY AUTOINCREMENT" := by
    simp [identityLexemes, hGenerated, sqlite]
  have hConstraint : constraintText field = "" := by
    simp [constraintText, hGenerated]
  have hNothing (reads : List (List Lexeme)) : joinReads (reads ++ [[]]) = joinReads reads := by
    simp [joinReads]
  rw [columnLexemes, hIdentity, hConstraint]
  exact hNothing [[.name field.column], symbols "INTEGER", default,
    symbols "PRIMARY KEY AUTOINCREMENT"]

/-- What matters of the item of a column: where it starts and how it holds a key. -/
structure IsKeyedColumn (dialect : Dialect) (field : Field) (item : List Lexeme) : Prop where
  start : withoutIndent item = item
  count : item.count keyLetter = if dialect.HasInlineKey field.toFieldSpec then 1 else 0
  inline : dialect = sqlite → field.isGeneratedId = true → IsInlineKey field.column item

theorem exists_keyedColumns {dialect : Dialect} (hOrdinary : dialect.IsOrdinary)
    (hNoKey : dialect.SpellsNoKey) {tableName : String} {fields : List Field}
    {texts : List Points} (hTexts : dialect.ColumnTexts tableName fields texts) :
    ∃ items, List.Forall₂ (Fragment dialect.quote) texts items ∧
      List.Forall₂ dialect.IsKeyedColumn fields items := by
  induction hTexts with
  | nil => exact ⟨[], .nil, .nil⟩
  | @cons field text fields texts hText _ ih =>
      obtain ⟨items, hItems, hColumns⟩ := ih
      obtain ⟨typeText, default, hType, hDefault, hItem⟩ := columnText_fragment hOrdinary hText
      refine ⟨_ :: items, .cons hItem hItems, .cons ⟨?_, ?_, ?_⟩ hColumns⟩
      · obtain ⟨definition, hDefinition, -⟩ := columnLexemes_eq_cons hOrdinary hType default
        rw [hDefinition]
        simp [withoutIndent]
      · exact count_columnLexemes hNoKey tableName hType hDefault
      · rintro rfl hGenerated
        have hInteger := columnType_sqlite hText hGenerated
        rw [hType] at hInteger
        cases hInteger
        exact isInlineKey_columnLexemes hGenerated hDefault

/-- Every id makes one key, in its column or in an argument, and no other field does. -/
theorem count_items {dialect : Dialect} {fields : List Field} {columns : List (List Lexeme)}
    (hColumns : List.Forall₂ dialect.IsKeyedColumn fields columns) :
    (columns ++ fields.flatMap fun field => dialect.argumentItems field.toFieldSpec).flatten.count
      keyLetter = (fields.filter fun field => field.isId).length := by
  induction hColumns with
  | nil => rfl
  | @cons field column fields columns hColumn _ ih =>
      have hArguments := count_argumentItems dialect field.toFieldSpec
      simp only [List.flatten_append, List.count_append] at ih
      simp only [List.cons_append, List.flatMap_cons, List.flatten_cons, List.flatten_append,
        List.count_append, hArguments, hColumn.count, List.filter_cons]
      by_cases hId : field.isId = true
      · by_cases hInline : dialect.HasInlineKey field.toFieldSpec <;>
          simp only [hId, hInline, not_true_eq_false, not_false_eq_true, and_true, and_false,
            if_true, if_false, List.length_cons] <;> omega
      · have hInline : ¬dialect.HasInlineKey field.toFieldSpec :=
          fun hInline => hId (isId_of_isGeneratedId hInline.1)
        simp only [hId, hInline, false_and, if_false, Bool.false_eq_true]
        omega

/-! ## The theorem -/

section

variable {dialect : Dialect} {table : Table} {ifNotExists : Bool} {plan : CreateTablePlan}

theorem hasInlineKey_iff (hBuiltin : dialect ∈ builtin) (field : FieldSpec) :
    dialect.HasInlineKey field ↔ dialect = sqlite ∧ field.isGeneratedId = true := by
  have hGeneration : dialect.idGeneration = .inlineAutoincrement ↔ dialect = sqlite := by
    simp only [builtin, List.mem_cons, List.not_mem_nil, or_false] at hBuiltin
    constructor
    · intro hGeneration
      rcases hBuiltin with rfl | rfl | rfl | rfl <;> first | rfl | cases hGeneration
    · rintro rfl
      rfl
  rw [HasInlineKey, hGeneration, and_comm]

/-- Where the key of an id stands: in the definition of its column or in an argument. -/
structure HasKeyOf (dialect : Dialect) (fields : List Field) (reading : TableReading)
    (field : Field) : Prop where
  inline : dialect = sqlite → field.isGeneratedId = true → ∃ item, ∃ index : Nat,
    fields[index]? = some field ∧ reading.items[index]? = some item ∧
      IsInlineKey field.column item
  argument : ¬(dialect = sqlite ∧ field.isGeneratedId = true) →
    keyItem field.column ∈ reading.items.drop fields.length

theorem keyItem_mem_argumentItems {field : Field} (hId : field.isId = true)
    (hNoInline : ¬dialect.HasInlineKey field.toFieldSpec) :
    keyItem field.column ∈ dialect.argumentItems field.toFieldSpec := by
  rw [argumentItems, if_pos ⟨hId, hNoInline⟩]
  simp

theorem keyItem_infix (column : Points) : primaryKey <:+: keyItem column := by
  have hWords : symbols "PRIMARY KEY (" = primaryKey ++ symbols " (" := rfl
  rw [keyItem, hWords, List.append_assoc]
  exact (List.prefix_append _ _).isInfix

theorem IsInlineKey.holds_primaryKey {column : Points} {item : List Lexeme}
    (hInline : IsInlineKey column item) : primaryKey <:+: item := by
  obtain ⟨default, -, rfl⟩ := hInline
  have hWords : symbols "PRIMARY KEY AUTOINCREMENT" = primaryKey ++ symbols " AUTOINCREMENT" := rfl
  have hKey : primaryKey <:+: symbols "PRIMARY KEY AUTOINCREMENT" := by
    rw [hWords]
    exact (List.prefix_append _ _).isInfix
  exact hKey.trans (infix_joinReads (by simp))

theorem HasKeyOf.holds_primaryKey {fields : List Field} {reading : TableReading} {field : Field}
    (hKey : dialect.HasKeyOf fields reading field) :
    ∃ item ∈ reading.items, primaryKey <:+: item := by
  by_cases hInline : dialect = sqlite ∧ field.isGeneratedId = true
  · obtain ⟨item, index, -, hItem, hShape⟩ := hKey.inline hInline.1 hInline.2
    exact ⟨item, List.mem_of_getElem? hItem, hShape.holds_primaryKey⟩
  · exact ⟨_, List.mem_of_mem_drop (hKey.argument hInline), keyItem_infix _⟩

theorem hasKeyOf_columns (hBuiltin : dialect ∈ builtin) {columns : List (List Lexeme)}
    (hColumns : List.Forall₂ dialect.IsKeyedColumn table.fields columns) {field : Field}
    (hField : table.idField? = some field) (after : List Lexeme) :
    dialect.HasKeyOf table.fields ⟨table.name, columns ++ table.fields.flatMap fun field =>
      dialect.argumentItems field.toFieldSpec, after⟩ field := by
  have hMem := Table.mem_of_idField hField
  have hId := Table.isId_of_idField hField
  constructor
  case inline =>
    rintro rfl hGenerated
    obtain ⟨index, hIndex, item, hItem, hColumn⟩ := exists_item hColumns hMem
    have hShort : index < columns.length := (List.getElem?_eq_some_iff.1 hItem).1
    refine ⟨item, index, hIndex, ?_, hColumn.inline rfl hGenerated⟩
    rw [List.getElem?_append_left hShort, hItem]
  case argument =>
    intro hNoInline
    have hNot : ¬dialect.HasInlineKey field.toFieldSpec :=
      fun hInline => hNoInline ((hasInlineKey_iff hBuiltin _).1 hInline)
    rw [hColumns.length_eq, List.drop_left]
    exact List.mem_flatMap.2 ⟨field, hMem, keyItem_mem_argumentItems hId hNot⟩

theorem argumentItems_fragment (hOrdinary : dialect.IsOrdinary) (fields : List Field) :
    List.Forall₂ (Fragment dialect.quote)
      (fields.flatMap fun field => dialect.columnArguments field.toFieldSpec)
      (fields.flatMap fun field => dialect.argumentItems field.toFieldSpec) := by
  induction fields with
  | nil => exact .nil
  | cons field fields ih =>
      exact List.rel_append (columnArguments_fragment hOrdinary field.toFieldSpec) ih

theorem count_statement (hNoKey : dialect.SpellsNoKey) (ifNotExists : Bool) (name : String)
    (items : List (List Lexeme)) :
    (symbols (createTableHead ifNotExists) ++ .name name :: .symbol ' ' :: .symbol '(' ::
      ((symbols ", ").intercalate items ++
        .symbol ')' :: symbols dialect.tableSuffix)).count keyLetter =
      items.flatten.count keyLetter := by
  have hHead : (symbols (createTableHead ifNotExists)).count keyLetter = 0 := by
    cases ifNotExists <;> decide
  have hSuffix : (symbols dialect.tableSuffix).count keyLetter = 0 :=
    count_symbols_eq_zero hNoKey.suffix
  have hBetween : (symbols ", ").count keyLetter = 0 := by decide
  have hOther (lexeme : Lexeme) (read : List Lexeme) (hLexeme : lexeme ≠ keyLetter) :
      (lexeme :: read).count keyLetter = read.count keyLetter :=
    List.count_cons_of_ne hLexeme
  rw [List.count_append, hHead, hOther _ _ (by simp [keyLetter]), hOther _ _ (by decide),
    hOther _ _ (by decide), List.count_append, count_intercalate hBetween,
    hOther _ _ (by decide), hSuffix]
  omega

theorem infix_statement (words after : List Lexeme) (name : String) {items : List (List Lexeme)}
    {item : List Lexeme} (hItem : item ∈ items) :
    item <:+: words ++ .name name :: .symbol ' ' :: .symbol '(' ::
      ((symbols ", ").intercalate items ++ .symbol ')' :: after) := by
  have hInside : item <:+: (symbols ", ").intercalate items := infix_intercalate hItem
  have hGroup := hInside.trans (List.prefix_append _ (.symbol ')' :: after)).isInfix
  have hNamed := hGroup.trans
    (List.suffix_append [.name name, .symbol ' ', .symbol '('] _).isInfix
  exact hNamed.trans (List.suffix_append words _).isInfix

theorem start_argumentItems (fields : List Field) :
    ∀ item ∈ fields.flatMap fun field => dialect.argumentItems field.toFieldSpec,
      withoutIndent item = item := by
  intro item hItem
  obtain ⟨field, -, hItem⟩ := List.mem_flatMap.1 hItem
  rw [argumentItems, List.mem_append] at hItem
  rcases hItem with hItem | hItem <;> split at hItem
  · rw [List.mem_singleton.1 hItem]
    rfl
  · cases hItem
  · rw [List.mem_singleton.1 hItem]
    rfl
  · cases hItem

/-- A statement that creates a table has one key if the table has an id and none if it has
not.  The key is an argument with the column of the id or, for a generated id on a dialect
that increments ids inside their columns, stands in the definition of that column. -/
theorem createTable_primaryKey (hBuiltin : dialect ∈ builtin)
    (hPlan : dialect.createTable table ifNotExists = .ok plan) :
    ∃ read reading, lexemes dialect.quote plan.createTable = some read ∧
      TableReading.ofLexemes? (symbols (createTableHead ifNotExists)) read = some reading ∧
      occurrences primaryKey read = table.idField?.toList.length ∧
      ∀ field, table.idField? = some field → dialect.HasKeyOf table.fields reading field := by
  have hOrdinary := isOrdinary_of_mem_builtin hBuiltin
  have hNoKey := spellsNoKey_of_mem_builtin hBuiltin
  obtain ⟨-, texts, hTexts, rfl⟩ := (dialect.createTable_eq_ok_iff table ifNotExists plan).1 hPlan
  let context := (table.fields.map Field.toFieldSpec).foldl dialect.collect
    { tableName := table.name }
  have hName : context.tableName = table.name := by simp [context, foldl_collect]
  have hArguments : context.additionalArgs =
      table.fields.flatMap fun field => dialect.columnArguments field.toFieldSpec := by
    simp [context, foldl_collect, List.flatMap_map]
  obtain ⟨columns, hItems, hColumns⟩ := exists_keyedColumns hOrdinary hNoKey hTexts
  let arguments := table.fields.flatMap fun field => dialect.argumentItems field.toFieldSpec
  have hAll : List.Forall₂ (Fragment dialect.quote) (texts ++ context.additionalArgs)
      (columns ++ arguments) := by
    rw [hArguments]
    exact List.rel_append hItems (argumentItems_fragment hOrdinary table.fields)
  have hNonempty : columns ++ arguments ≠ [] := by
    have hLength := hColumns.length_eq
    have hFields := List.length_pos_of_ne_nil table.fields_ne_nil
    apply List.ne_nil_of_length_pos
    rw [List.length_append]
    omega
  have hStarts : ∀ item ∈ columns ++ arguments, withoutIndent item = item := by
    intro item hItem
    rcases List.mem_append.1 hItem with hColumn | hArgument
    · exact forall_of_forall₂ hColumns (fun _ _ hShape => hShape.start) item hColumn
    · exact start_argumentItems table.fields item hArgument
  have hRead := createTableText_lexemes hOrdinary ifNotExists hAll
  have hReading := createTableText_reading hOrdinary ifNotExists hAll hNonempty hStarts
  rw [TableReading.ofText?, hRead, Option.bind_some] at hReading
  rw [hName] at hRead hReading
  have hKeys : ∀ field, table.idField? = some field → dialect.HasKeyOf table.fields
      ⟨table.name, columns ++ arguments, symbols dialect.tableSuffix⟩ field :=
    fun field hField => hasKeyOf_columns hBuiltin hColumns hField _
  refine ⟨_, _, hRead, hReading, ?_, hKeys⟩
  have hCount := (count_statement hNoKey ifNotExists table.name (columns ++ arguments)).trans
    (count_items hColumns)
  rw [table.filter_isId] at hCount
  cases hField : table.idField? with
  | none =>
      have hLe := (occurrences_primaryKey_le _).trans_eq hCount
      simpa [hField] using hLe
  | some field =>
      obtain ⟨item, hItem, hInfix⟩ := (hKeys field hField).holds_primaryKey
      rw [hField] at hCount
      exact occurrences_primaryKey_eq_one hCount
        (hInfix.trans (infix_statement _ _ _ hItem))

end

/-- On a dialect without sequences, an id that names one is the key by its own definition. -/
def inlinePlan : CreateTablePlan where
  tableName := "t\", ("
  createTable :=
    "CREATE TABLE `t\", (` (`i\"),d` INTEGER PRIMARY KEY AUTOINCREMENT" ++
      ", `note` TEXT DEFAULT 'x''), (', UNIQUE (`note`))"

theorem createTable_inlinePlan : sqlite.createTable awkwardTable false = .ok inlinePlan := by
  rfl

theorem createTable_primaryKey_awkwardTable :
    ∃ read reading, lexemes sqlite.quote inlinePlan.createTable = some read ∧
      TableReading.ofLexemes? (symbols (createTableHead false)) read = some reading ∧
      occurrences primaryKey read = awkwardTable.idField?.toList.length ∧
      ∀ field, awkwardTable.idField? = some field →
        sqlite.HasKeyOf awkwardTable.fields reading field :=
  createTable_primaryKey (by simp [builtin]) createTable_inlinePlan

end Dialect

end SqlDialects
