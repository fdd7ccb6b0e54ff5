import Mathlib.Algebra.GroupWithZero.Nat
import SqlDialects.Proofs.Ddl.Companions

/-!
# The defaults of a column

The default of a field and the clause of an id are written independently of each other.
On a dialect with sequences both hold the keyword `DEFAULT`, so the column of a generated
id that also has a default of its own says it twice, which no database accepts.  A keyword
is counted among the words outside quotes, so it does not matter what names and literals
hold.
-/

namespace SqlDialects

namespace Sql

/-! ## Keywords -/

/-- Whether a lexeme continues a word. -/
def Lexeme.isLetter : Lexeme → Bool
  | .symbol (.char c) => c.isAlphanum || c == '_'
  | _ => false

/-- The runs of letters between everything else, which are empty where nothing is between. -/
def words (read : List Lexeme) : List (List Lexeme) :=
  read.splitOnP fun lexeme => !lexeme.isLetter

/-- How often a text says a keyword. -/
def keywordCount (keyword : String) (read : List Lexeme) : Nat :=
  (words read).count (symbols keyword)

theorem keywordCount_append_cons {lexeme : Lexeme} (hBreak : lexeme.isLetter = false)
    (keyword : String) (first second : List Lexeme) :
    keywordCount keyword (first ++ lexeme :: second) =
      keywordCount keyword first + keywordCount keyword second := by
  rw [keywordCount, words, List.splitOnP_append_cons first second (by simp [hBreak]),
    List.count_append]
  rfl

theorem keywordCount_nil {keyword : String} (hKeyword : keyword ≠ "") :
    keywordCount keyword [] = 0 := by
  have hSymbols : symbols keyword ≠ [] := by simpa [symbols] using hKeyword
  simp [keywordCount, words, Ne.symm hSymbols]

theorem keywordCount_joinReads {keyword : String} (hKeyword : keyword ≠ "")
    (reads : List (List Lexeme)) :
    keywordCount keyword (joinReads reads) = (reads.map (keywordCount keyword)).sum := by
  have hNil := keywordCount_nil hKeyword
  induction reads with
  | nil => exact hNil
  | cons read reads ih =>
      rw [List.map_cons, List.sum_cons, ← ih]
      by_cases hRead : read = []
      · simp [joinReads, hRead, hNil]
      · unfold joinReads
        rw [List.filter_cons_of_pos (by simpa using hRead)]
        cases reads.filter (· ≠ []) with
        | nil => simp [hNil]
        | cons other others =>
            rw [List.intercalate_cons_cons, List.append_assoc]
            exact keywordCount_append_cons rfl keyword read _

theorem subset_of_mem_words {read word : List Lexeme} (hWord : word ∈ words read) :
    word ⊆ read := by
  induction read generalizing word with
  | nil =>
      obtain rfl : word = [] := by simpa [words] using hWord
      exact List.nil_subset []
  | cons lexeme read ih =>
      rw [words, List.splitOnP_cons_eq_if_modifyHead] at hWord
      split at hWord
      · rcases List.mem_cons.1 hWord with rfl | hLater
        · exact List.nil_subset _
        · exact List.subset_cons_of_subset lexeme (ih hLater)
      · -- The lexeme continues the first of the later words.
        cases hWords : read.splitOnP fun lexeme => !lexeme.isLetter with
        | nil => simp [hWords] at hWord
        | cons first later =>
            rw [hWords, List.modifyHead_cons, List.mem_cons] at hWord
            have hLater (other : List Lexeme) (hOther : other ∈ first :: later) : other ⊆ read :=
              ih (by rwa [words, hWords])
            rcases hWord with rfl | hMem
            · exact List.cons_subset_cons lexeme (hLater first (by simp))
            · exact List.subset_cons_of_subset lexeme (hLater word (by simp [hMem]))

theorem keywordCount_eq_zero {keyword : String} {c : Char} (hLetter : c ∈ keyword.toList)
    {read : List Lexeme} (hRead : .symbol (.char c) ∉ read) : keywordCount keyword read = 0 := by
  rw [keywordCount, List.count_eq_zero]
  intro hWord
  exact hRead (subset_of_mem_words hWord (symbol_mem_symbols.2 hLetter))

end Sql

namespace Dialect

open Sql
open Text (Points)

/-! ## The words of a dialect -/

/-- The names of the types on which all databases agree. -/
def usualTypeNames : List String :=
  ["VARCHAR", "TEXT", "CHAR", "SMALLINT", "INTEGER", "BIGINT", "FLOAT", "DOUBLE PRECISION",
    "NUMERIC"]

/-- A keyword that no type says, with a letter of it that no numeral has. -/
structure IsNoType (keyword : String) (c : Char) : Prop where
  letter : c ∈ keyword.toList
  numeral : isNumeralChar c = false
  usual : ∀ name ∈ usualTypeNames, keywordCount keyword (symbols name) = 0
  name : ∀ dialect ∈ builtin, ∀ name ∈ dialect.typeNameList, keywordCount keyword (symbols name) = 0

section

variable {keyword : String} {c : Char}

theorem IsNoType.ne_empty (hKeyword : IsNoType keyword c) : keyword ≠ "" := by
  rintro rfl
  cases hKeyword.letter

theorem IsNoType.count_numeral (hKeyword : IsNoType keyword c) {text : String}
    (hText : IsNumeral text.toList) : keywordCount keyword (symbols text) = 0 := by
  apply keywordCount_eq_zero hKeyword.letter
  intro hMem
  have hNumeral := hText c (symbol_mem_symbols.1 hMem)
  rw [hKeyword.numeral] at hNumeral
  contradiction

theorem IsNoType.count_default (hKeyword : IsNoType keyword c) {value : List Lexeme}
    (hValue : (∃ content, value = [.literal content]) ∨
      ∃ word : String, IsNumeral word.toList ∧ value = symbols word) :
    keywordCount keyword (symbols "DEFAULT " ++ value) =
      keywordCount keyword (symbols "DEFAULT") := by
  have hRead : symbols "DEFAULT " ++ value = symbols "DEFAULT" ++ .symbol ' ' :: value := rfl
  have hNoWord : keywordCount keyword value = 0 := by
    rcases hValue with ⟨content, rfl⟩ | ⟨word, hNumeral, rfl⟩
    · exact keywordCount_eq_zero hKeyword.letter (by simp)
    · exact hKeyword.count_numeral hNumeral
  rw [hRead, keywordCount_append_cons rfl, hNoWord, Nat.add_zero]

theorem IsNoType.count_nextval (hKeyword : IsNoType keyword c) (content : Points) :
    keywordCount keyword (symbols "DEFAULT NEXTVAL(" ++ [.literal content, .symbol ')']) =
      keywordCount keyword (symbols "DEFAULT NEXTVAL") := by
  have hWords : symbols "DEFAULT NEXTVAL(" = symbols "DEFAULT NEXTVAL" ++ [.symbol '('] := rfl
  have hLiteral : keywordCount keyword [.literal content] = 0 :=
    keywordCount_eq_zero hKeyword.letter (by simp)
  have hRest : keywordCount keyword [.literal content, .symbol ')'] = 0 := by
    rw [← List.singleton_append, keywordCount_append_cons rfl, hLiteral,
      keywordCount_nil hKeyword.ne_empty]
  rw [hWords, List.append_assoc, List.singleton_append, keywordCount_append_cons rfl, hRest,
    Nat.add_zero]

theorem IsNoType.count_varchar (hKeyword : IsNoType keyword c) {usual width : Nat}
    {typeText : String} (hType : varchar usual width = .ok typeText) :
    keywordCount keyword (symbols typeText) = 0 := by
  obtain ⟨widthText, hNumeral, rfl⟩ := exists_width_of_varchar hType
  have hSymbols : symbols ("VARCHAR(" ++ widthText ++ ")") =
      symbols "VARCHAR" ++ .symbol '(' :: (symbols widthText ++ [.symbol ')']) := by
    simp [symbols]
  rw [hSymbols, keywordCount_append_cons rfl, keywordCount_append_cons rfl,
    hKeyword.count_numeral hNumeral, hKeyword.usual "VARCHAR" (by decide),
    keywordCount_nil hKeyword.ne_empty]

theorem IsNoType.count_columnType (hKeyword : IsNoType keyword c) {dialect : Dialect}
    (hBuiltin : dialect ∈ builtin) {field : FieldSpec} {typeText : String}
    (hType : dialect.columnType field = .ok typeText) :
    keywordCount keyword (symbols typeText) = 0 := by
  have hUsual := hKeyword.usual
  have hNames := hKeyword.name dialect hBuiltin
  unfold columnType at hType
  cases hSql : field.sqlType <;> simp only [hSql, Except.ok.injEq] at hType
  case string => exact hKeyword.count_varchar hType
  case uuid => exact hKeyword.count_varchar hType
  case long =>
    rw [← hType]
    split
    · exact hNames _ (by simp [typeNameList])
    · exact hUsual _ (by decide)
  all_goals
    rw [← hType]
    first
      | exact hUsual _ (by decide)
      | exact hNames _ (by simp [typeNameList])

end

def defaultKeyword : String := "DEFAULT"

theorem isNoType_defaultKeyword : IsNoType defaultKeyword 'D' where
  letter := by decide
  numeral := by decide
  usual := by decide
  name := by
    simp only [builtin, List.forall_mem_cons, List.not_mem_nil, false_imp_iff, implies_true,
      and_true]
    decide

/-! ## The parts of a column -/

theorem count_defaultText {dialect : Dialect} (hOrdinary : dialect.IsOrdinary)
    {field : FieldSpec} {text : Points} (hText : dialect.defaultText field = .ok text) :
    ∃ read, Fragment dialect.quote text read ∧
      keywordCount defaultKeyword read = if field.default.isSome then 1 else 0 := by
  unfold defaultText at hText
  split at hText
  · next hDefault =>
    obtain ⟨value, hFragment, hValue⟩ := defaultClause_fragment hOrdinary hText
    have hOne : keywordCount defaultKeyword (symbols "DEFAULT") = 1 := by decide
    refine ⟨_, hFragment, ?_⟩
    rw [isNoType_defaultKeyword.count_default hValue, hOne, if_pos hDefault]
  · next hDefault =>
    injection hText with hEqual
    subst hEqual
    refine ⟨symbols "", Fragment.word hOrdinary.quote (by decide), ?_⟩
    rw [if_neg hDefault]
    decide

theorem count_identityLexemes_default (dialect : Dialect) (tableName : String)
    (field : FieldSpec) :
    keywordCount defaultKeyword (dialect.identityLexemes tableName field) =
      if dialect.idGeneration = .sequence ∧ field.isGeneratedId = true then 1 else 0 := by
  unfold identityLexemes
  by_cases hGenerated : field.isGeneratedId = true
  · rw [if_pos hGenerated]
    cases hGeneration : dialect.idGeneration with
    | sequence =>
        have hOne : keywordCount defaultKeyword (symbols "DEFAULT NEXTVAL") = 1 := by decide
        dsimp only
        rw [isNoType_defaultKeyword.count_nextval, hOne, if_pos ⟨rfl, hGenerated⟩]
    | none => simp [keywordCount_nil, defaultKeyword]
    | autoIncrement => simpa using (by decide :
        keywordCount defaultKeyword (symbols "AUTO_INCREMENT") = 0)
    | identity => simpa using (by decide : keywordCount defaultKeyword (symbols "IDENTITY") = 0)
    | inlineAutoincrement => simpa using (by decide :
        keywordCount defaultKeyword (symbols "PRIMARY KEY AUTOINCREMENT") = 0)
  · simp [hGenerated, keywordCount_nil, defaultKeyword]

theorem count_constraintText (field : FieldSpec) :
    keywordCount defaultKeyword (symbols (constraintText field)) = 0 := by
  unfold constraintText
  split <;> decide

/-! ## The theorem -/

section

variable {dialect : Dialect} {field : Field} {context : DdlContext} {text : Points}

/-- A column says `DEFAULT` once for a default of its field and once for a sequence that it
takes its values from.  So it does so at most once if and only if the field is no generated
id with a default on the dialect with sequences. -/
theorem columnDefinition_defaults (hBuiltin : dialect ∈ builtin)
    (hText : ((dialect.columnDefinition field.toFieldSpec).runIn context).1 = .ok text) :
    ∃ read, lexemes dialect.quote text = some read ∧
      keywordCount defaultKeyword read =
        (if field.default.isSome then 1 else 0) +
          (if dialect.idGeneration = .sequence ∧ field.isGeneratedId = true then 1 else 0) ∧
      (keywordCount defaultKeyword read ≤ 1 ↔
        ¬(dialect = postgres ∧ field.isGeneratedId = true ∧ field.default.isSome = true)) := by
  have hOrdinary := isOrdinary_of_mem_builtin hBuiltin
  obtain ⟨typeText, defaultText, identity, hType, hDefault, hIdentity, rfl⟩ :=
    columnText_eq_ok_iff.1 (columnText_of_columnDefinition hText)
  obtain ⟨default, hDefaultRead, hDefaultCount⟩ := count_defaultText hOrdinary hDefault
  have hColumn := Fragment.joinWords hOrdinary.quote
    (.cons (Fragment.name dialect.quote field.column)
      (.cons (columnType_fragment hOrdinary hType).2 (.cons hDefaultRead
        (.cons (identityText_fragment hOrdinary hIdentity)
          (.cons (constraintText_fragment hOrdinary.quote field.toFieldSpec) .nil)))))
  have hName : keywordCount defaultKeyword [.name field.column] = 0 :=
    keywordCount_eq_zero (show 'D' ∈ defaultKeyword.toList by decide) (by simp)
  have hCount := keywordCount_joinReads (show defaultKeyword ≠ "" by decide)
    [[.name field.column], symbols typeText, default,
      dialect.identityLexemes context.tableName field.toFieldSpec,
      symbols (constraintText field.toFieldSpec)]
  simp only [List.map_cons, List.map_nil, List.sum_cons, List.sum_nil, hName,
    isNoType_defaultKeyword.count_columnType hBuiltin hType, hDefaultCount,
    count_identityLexemes_default, count_constraintText, Nat.zero_add, Nat.add_zero] at hCount
  refine ⟨_, hColumn.reads.lexemes_eq, hCount, ?_⟩
  rw [hCount, ← idGeneration_eq_sequence_iff hBuiltin]
  by_cases hSome : field.default.isSome = true <;>
    by_cases hSequence : dialect.idGeneration = .sequence <;>
      by_cases hGenerated : field.isGeneratedId = true <;> simp [hSome, hSequence, hGenerated]

end

/-- A generated id that has a default as well. -/
def numberedField : Field where
  name := "number"
  sqlType := .int
  width := 0
  columnName := none
  id := false
  generatedId := true
  generatedIdSequence := none
  allowGeneratedIdInsert := false
  nullable := true
  unique := false
  default := some "7"
  name_ne_empty := by decide
  oneIdFlag := by decide
  insertNeedsGeneratedId := by decide

def numberedColumn : Points :=
  .ofString "\"number\" INTEGER DEFAULT 7 DEFAULT NEXTVAL('\"t_number_seq\"')"

theorem columnDefinition_numberedField :
    ((postgres.columnDefinition numberedField.toFieldSpec).runIn { tableName := "t" }).1 =
      .ok numberedColumn := by
  rfl

theorem columnDefinition_defaults_numberedField :
    ∃ read, lexemes postgres.quote numberedColumn = some read ∧
      keywordCount defaultKeyword read =
        (if numberedField.default.isSome then 1 else 0) +
          (if postgres.idGeneration = .sequence ∧ numberedField.isGeneratedId = true
            then 1 else 0) ∧
      (keywordCount defaultKeyword read ≤ 1 ↔
        ¬(postgres = postgres ∧ numberedField.isGeneratedId = true ∧
          numberedField.default.isSome = true)) :=
  columnDefinition_defaults postgres_mem_builtin columnDefinition_numberedField

/-- The column of that field says `DEFAULT` twice. -/
theorem columnDefinition_repeatsDefault :
    ((postgres.columnDefinition numberedField.toFieldSpec).runIn { tableName := "t" }).1 =
        .ok numberedColumn ∧
      (lexemes postgres.quote numberedColumn).map (keywordCount defaultKeyword) = some 2 :=
  ⟨columnDefinition_numberedField, by decide⟩

end Dialect

end SqlDialects
