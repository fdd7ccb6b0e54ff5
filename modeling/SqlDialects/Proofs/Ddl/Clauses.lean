import SqlDialects.Dialect.Vendors
import SqlDialects.Proofs.Ddl.Rendering
import SqlDialects.Proofs.Sql.Fragment

/-!
# The clauses of a column

Everything that a dialect writes for a column is a fragment: its type, its default,
the words that make it an id, and the arguments that it adds to its table.  The
only texts in it that a description chooses stand between quotes.
-/

namespace SqlDialects.Dialect

open Sql
open Text (Points)

def typeNameList (dialect : Dialect) : List String :=
  [dialect.typeNames.boolean, dialect.typeNames.date, dialect.typeNames.byte,
    dialect.typeNames.byteArray, dialect.typeNames.generatedLong]

/-- What a dialect writes of its own is made of words. -/
structure IsOrdinary (dialect : Dialect) : Prop where
  quote : IsNameQuote dialect.quote
  typeName : ∀ name ∈ dialect.typeNameList, name ≠ "" ∧ IsWord name.toList
  suffix : IsWord dialect.tableSuffix.toList

theorem isOrdinary_of_mem_builtin {dialect : Dialect} (hBuiltin : dialect ∈ builtin) :
    dialect.IsOrdinary := by
  simp only [builtin, List.mem_cons, List.not_mem_nil, or_false] at hBuiltin
  rcases hBuiltin with rfl | rfl | rfl | rfl <;> constructor <;> decide

/-! ## Types -/

theorem renderInteger_isNumeral {number : Int} {text : String}
    (hText : renderInteger number = .ok text) : IsNumeral text.toList := by
  unfold renderInteger at hText
  split at hText
  · injection hText with hEqual
    exact hEqual ▸ isNumeral_integerText number
  · cases hText

theorem exists_width_of_varchar {usual width : Nat} {typeText : String}
    (hType : varchar usual width = .ok typeText) :
    ∃ widthText : String, IsNumeral widthText.toList ∧
      "VARCHAR(" ++ widthText ++ ")" = typeText := by
  unfold varchar at hType
  cases hWidth : renderInteger (if width = 0 then usual else width) with
  | error error => simp [hWidth, bind, Except.bind] at hType
  | ok widthText =>
      rw [hWidth] at hType
      injection hType with hEqual
      exact ⟨widthText, renderInteger_isNumeral hWidth, hEqual⟩

theorem varchar_fragment {quote : Char} (hQuote : IsNameQuote quote) {usual width : Nat}
    {typeText : String} (hType : varchar usual width = .ok typeText) :
    typeText ≠ "" ∧ Fragment quote typeText (symbols typeText) := by
  obtain ⟨widthText, hNumeral, rfl⟩ := exists_width_of_varchar hType
  have hGroup := Fragment.group hQuote (show IsWord "VARCHAR".toList by decide) rfl
    (Fragment.word hQuote hNumeral.isWord)
  constructor
  · simp [← String.toList_inj]
  · simpa [symbols, Points.ofString_append] using hGroup

theorem columnType_fragment {dialect : Dialect} (hOrdinary : dialect.IsOrdinary)
    {field : FieldSpec} {typeText : String} (hType : dialect.columnType field = .ok typeText) :
    typeText ≠ "" ∧ Fragment dialect.quote typeText (symbols typeText) := by
  have hWord {text : String} (hText : text ≠ "" ∧ IsWord text.toList) :
      text ≠ "" ∧ Fragment dialect.quote text (symbols text) :=
    ⟨hText.1, Fragment.word hOrdinary.quote hText.2⟩
  have hName := hOrdinary.typeName
  simp only [typeNameList, List.mem_cons, List.not_mem_nil, or_false, forall_eq_or_imp,
    forall_eq] at hName
  obtain ⟨hBoolean, hDate, hByte, hByteArray, hLong⟩ := hName
  unfold columnType at hType
  cases hSql : field.sqlType <;> simp only [hSql, Except.ok.injEq] at hType
  case string => exact varchar_fragment hOrdinary.quote hType
  case uuid => exact varchar_fragment hOrdinary.quote hType
  case long =>
    rw [← hType]
    split
    · exact hWord hLong
    · exact hWord (by decide)
  all_goals
    rw [← hType]
    first
      | exact hWord (by decide)
      | exact hWord ‹_›

/-! ## Defaults -/

/-- A value whose literal is a numeral or the word of a truth value. -/
def IsNumeralDefault (value : DefaultValue) : Prop :=
  ∃ word : String, value.literal = word ∧ IsNumeral word.toList

private theorem parseInteger_isNumeral {kind : IntegerKind} {content : String}
    {value : DefaultValue} (hValue : Converter.parseInteger kind content = .ok value) :
    IsNumeralDefault value := by
  unfold Converter.parseInteger at hValue
  split at hValue
  · cases hValue
  · split at hValue
    · injection hValue with hEqual
      rw [← hEqual]
      exact ⟨_, rfl, isNumeral_integerText _⟩
    · cases hValue

private theorem parseReal_isNumeral {content : String} {value : DefaultValue}
    (hValue : Converter.parseReal content = .ok value) : IsNumeralDefault value := by
  unfold Converter.parseReal at hValue
  split at hValue
  · cases hValue
  · next number _ =>
    split at hValue
    · injection hValue with hEqual
      rw [← hEqual]
      exact ⟨_, rfl, isNumeral_realText number⟩
    · cases hValue

private theorem parseDecimal_isNumeral {content : String} {value : DefaultValue}
    (hValue : Converter.parseDecimal content = .ok value) : IsNumeralDefault value := by
  unfold Converter.parseDecimal at hValue
  split at hValue
  · cases hValue
  · next number _ =>
    split at hValue
    · injection hValue with hEqual
      rw [← hEqual]
      exact ⟨_, rfl, isNumeral_toText number⟩
    · cases hValue

/-- A default that is written without quotes is a numeral or the word of a truth value. -/
theorem readDefault_isNumeral {converter : Converter} {content : String} {value : DefaultValue}
    (hQuotes : converter.quotesDefault = false)
    (hValue : converter.readDefault content = .ok value) : IsNumeralDefault value := by
  cases converter with
  | text kind => cases hQuotes
  | char => cases hQuotes
  | date => cases hQuotes
  | uuid => cases hQuotes
  | bytes => cases hQuotes
  | archive => cases hValue
  | boolean =>
      cases hFlag : Converter.parseBoolean content with
      | error reason => simp [Converter.readDefault, hFlag, Except.map] at hValue
      | ok flag =>
          obtain rfl : DefaultValue.boolean flag = value := by
            simpa [Converter.readDefault, hFlag, Except.map] using hValue
          cases flag
          · exact ⟨"FALSE", rfl, by decide⟩
          · exact ⟨"TRUE", rfl, by decide⟩
  | booleanNumber =>
      cases hFlag : Converter.parseBoolean content with
      | error reason => simp [Converter.readDefault, hFlag, Except.map] at hValue
      | ok flag =>
          simp only [Converter.readDefault, hFlag, Except.map] at hValue
          injection hValue with hEqual
          rw [← hEqual]
          exact ⟨_, rfl, isNumeral_integerText (if flag then 1 else 0)⟩
  | integer kind =>
      have hRead : Converter.parseInteger kind content = .ok value := hValue
      exact parseInteger_isNumeral hRead
  | byteInShort =>
      have hRead : Converter.parseInteger .short content = .ok value := hValue
      exact parseInteger_isNumeral hRead
  | real kind =>
      have hRead : Converter.parseReal content = .ok value := hValue
      exact parseReal_isNumeral hRead
  | decimal =>
      have hRead : Converter.parseDecimal content = .ok value := hValue
      exact parseDecimal_isNumeral hRead

/-- Only a quoted literal can be ill-formed. -/
theorem parseDefault_isNumeral {converter : Converter} {fieldName : String} {literal : Points}
    {value : DefaultValue} (hQuotes : converter.quotesDefault = false)
    (hValue : converter.parseDefault fieldName literal = .ok value) : IsNumeralDefault value := by
  unfold Converter.parseDefault at hValue
  split at hValue
  · next content _ =>
    cases hRead : converter.readDefault content with
    | error reason => simp [hRead, Except.mapError] at hValue
    | ok other =>
        obtain rfl : other = value := by simpa [hRead, Except.mapError] using hValue
        exact readDefault_isNumeral hQuotes hRead
  · cases converter <;> simp [Converter.quotesDefault, Converter.parseIllFormed] at hQuotes hValue

theorem defaultClause_fragment {dialect : Dialect} (hOrdinary : dialect.IsOrdinary)
    {field : FieldSpec} {text : Points} (hText : dialect.defaultClause field = .ok text) :
    ∃ value, Fragment dialect.quote text (symbols "DEFAULT " ++ value) ∧
      ((∃ content, value = [.literal content]) ∨
        ∃ word : String, IsNumeral word.toList ∧ value = symbols word) := by
  have hDefault : IsWord "DEFAULT ".toList := by decide
  unfold defaultClause at hText
  split at hText
  · cases hText
  · next content hContent =>
    dsimp only at hText
    split at hText
    · cases hText
    · next value hValue =>
      injection hText with hEqual
      subst hEqual
      cases hQuotes : (dialect.converterFor field.sqlType).quotesDefault with
      | true =>
          refine ⟨[.literal value.literal], ?_, Or.inl ⟨_, rfl⟩⟩
          exact (Fragment.literal hOrdinary.quote _).wordAppend hOrdinary.quote hDefault
      | false =>
          obtain ⟨word, hWord, hNumeral⟩ := parseDefault_isNumeral hQuotes hValue
          refine ⟨symbols word, ?_, Or.inr ⟨_, hNumeral, rfl⟩⟩
          rw [if_neg (by simp), hWord]
          exact (Fragment.word hOrdinary.quote hNumeral.isWord).wordAppend hOrdinary.quote hDefault

/-! ## Ids and constraints -/

/-- What the clause of an id is read as.  The literal holds a quoted name. -/
def identityLexemes (dialect : Dialect) (tableName : String) (field : FieldSpec) : List Lexeme :=
  if field.isGeneratedId then
    match dialect.idGeneration with
    | .none => []
    | .sequence =>
      let sequence := dialect.createdSequence tableName field
      symbols "DEFAULT NEXTVAL(" ++ [.literal (dialect.quoteIdentifier sequence), .symbol ')']
    | .autoIncrement => symbols "AUTO_INCREMENT"
    | .identity => symbols "IDENTITY"
    | .inlineAutoincrement => symbols "PRIMARY KEY AUTOINCREMENT"
  else []

theorem identityText_fragment {dialect : Dialect} (hOrdinary : dialect.IsOrdinary)
    {tableName : String} {field : FieldSpec} {text : Points}
    (hText : dialect.identityText tableName field = .ok text) :
    Fragment dialect.quote text (dialect.identityLexemes tableName field) := by
  have hQuote := hOrdinary.quote
  unfold identityText at hText
  split at hText
  · next hGenerated =>
    unfold generationText at hText
    split at hText
    · cases hText
    · cases hGeneration : dialect.idGeneration with
      | none => simp [hGeneration] at hText
      | sequence =>
          simp only [hGeneration, Except.ok.injEq] at hText
          subst hText
          have hGroup := Fragment.group hQuote (show IsWord "DEFAULT NEXTVAL".toList by decide) rfl
            (Fragment.literal hQuote
              (dialect.quoteIdentifier (dialect.createdSequence tableName field)))
          simpa [identityLexemes, hGenerated, hGeneration] using hGroup
      | autoIncrement =>
          simp only [hGeneration, Except.ok.injEq] at hText
          subst hText
          simpa [identityLexemes, hGenerated, hGeneration] using Fragment.word hQuote (by decide)
      | identity =>
          simp only [hGeneration, Except.ok.injEq] at hText
          subst hText
          simpa [identityLexemes, hGenerated, hGeneration] using Fragment.word hQuote (by decide)
      | inlineAutoincrement =>
          simp only [hGeneration] at hText
          split at hText
          · injection hText with hEqual
            subst hEqual
            simpa [identityLexemes, hGenerated, hGeneration] using Fragment.word hQuote (by decide)
          · cases hText
  · next hGenerated =>
    injection hText with hEqual
    subst hEqual
    have hEmpty : IsWord "".toList := by decide
    simpa [identityLexemes, hGenerated, symbols] using Fragment.word hQuote hEmpty

theorem constraintText_fragment {quote : Char} (hQuote : IsNameQuote quote) (field : FieldSpec) :
    Fragment quote (constraintText field) (symbols (constraintText field)) := by
  apply Fragment.word hQuote
  unfold constraintText
  split <;> decide

theorem columnGroup_fragment {dialect : Dialect} (hOrdinary : dialect.IsOrdinary)
    (field : FieldSpec) {word opening : String} (hWord : IsWord word.toList)
    (hOpening : opening = word ++ "(") :
    Fragment dialect.quote (opening ++ dialect.quoteIdentifier field.column ++ ")")
      (symbols opening ++ [.name field.column, .symbol ')']) := by
  simpa [quoteIdentifier] using Fragment.group hOrdinary.quote hWord hOpening
    (Fragment.name dialect.quote field.column)

theorem columnArgument_fragment {dialect : Dialect} (hOrdinary : dialect.IsOrdinary)
    {field : FieldSpec} {argument : Points} (hArgument : argument ∈ dialect.columnArguments field) :
    ∃ opening ∈ ["PRIMARY KEY (", "UNIQUE ("], Fragment dialect.quote argument
      (symbols opening ++ [.name field.column, .symbol ')']) := by
  rw [columnArguments, List.mem_append] at hArgument
  rcases hArgument with hKey | hUnique
  · refine ⟨"PRIMARY KEY (", by simp, ?_⟩
    unfold keyArguments at hKey
    split at hKey
    · rw [List.mem_singleton.1 hKey]
      exact columnGroup_fragment hOrdinary field (show IsWord "PRIMARY KEY ".toList by decide) rfl
    · cases hKey
  · refine ⟨"UNIQUE (", by simp, ?_⟩
    unfold uniqueArguments at hUnique
    split at hUnique
    · rw [List.mem_singleton.1 hUnique]
      exact columnGroup_fragment hOrdinary field (show IsWord "UNIQUE ".toList by decide) rfl
    · cases hUnique

/-! ## Columns -/

/-- What the default of a column is read as, if it has one. -/
def IsDefault (read : List Lexeme) : Prop :=
  read = [] ∨ ∃ value, read = symbols "DEFAULT " ++ value ∧
    ((∃ content, value = [.literal content]) ∨
      ∃ word : String, IsNumeral word.toList ∧ value = symbols word)

theorem defaultText_fragment {dialect : Dialect} (hOrdinary : dialect.IsOrdinary)
    {field : FieldSpec} {text : Points} (hText : dialect.defaultText field = .ok text) :
    ∃ default, IsDefault default ∧ Fragment dialect.quote text default := by
  unfold defaultText at hText
  split at hText
  · obtain ⟨value, hFragment, hValue⟩ := defaultClause_fragment hOrdinary hText
    exact ⟨_, Or.inr ⟨value, rfl, hValue⟩, hFragment⟩
  · injection hText with hEqual
    subst hEqual
    have hEmpty : IsWord "".toList := by decide
    exact ⟨symbols "", Or.inl rfl, Fragment.word hOrdinary.quote hEmpty⟩

def columnLexemes (dialect : Dialect) (tableName : String) (field : FieldSpec)
    (typeText : String) (default : List Lexeme) : List Lexeme :=
  joinReads [[.name field.column], symbols typeText, default,
    dialect.identityLexemes tableName field, symbols (constraintText field)]

theorem columnText_fragment {dialect : Dialect} (hOrdinary : dialect.IsOrdinary)
    {tableName : String} {field : FieldSpec} {text : Points}
    (hText : dialect.columnText tableName field = .ok text) :
    ∃ typeText default, dialect.columnType field = .ok typeText ∧ IsDefault default ∧
      Fragment dialect.quote text (dialect.columnLexemes tableName field typeText default) := by
  have hQuote := hOrdinary.quote
  obtain ⟨typeText, defaultText, identity, hType, hDefault, hIdentity, rfl⟩ :=
    columnText_eq_ok_iff.1 hText
  obtain ⟨default, hShape, hDefaultRead⟩ := defaultText_fragment hOrdinary hDefault
  refine ⟨typeText, default, hType, hShape, Fragment.joinWords hQuote ?_⟩
  exact .cons (Fragment.name _ _) (.cons (columnType_fragment hOrdinary hType).2
    (.cons hDefaultRead (.cons (identityText_fragment hOrdinary hIdentity)
      (.cons (constraintText_fragment hQuote field) .nil))))

theorem columnLexemes_eq_cons {dialect : Dialect} (hOrdinary : dialect.IsOrdinary)
    {tableName : String} {field : FieldSpec} {typeText : String}
    (hType : dialect.columnType field = .ok typeText) (default : List Lexeme) :
    ∃ definition, dialect.columnLexemes tableName field typeText default =
        .name field.column :: .symbol ' ' :: definition ∧
      dialect.identityLexemes tableName field <:+: definition := by
  have hTypeText : symbols typeText ≠ [] := by
    simpa [symbols] using (columnType_fragment hOrdinary hType).1
  refine ⟨_, joinReads_cons_cons (by simp) hTypeText _, ?_⟩
  exact infix_joinReads (by simp)

end SqlDialects.Dialect
