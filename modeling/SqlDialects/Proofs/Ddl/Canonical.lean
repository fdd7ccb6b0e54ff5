import SqlDialects.Proofs.Converter.Canonical
import SqlDialects.Proofs.Ddl.Structure
import SqlDialects.Proofs.Field.Default
import SqlDialects.Proofs.Sql.Literal

/-!
# Canonical `DEFAULT` clauses

What a `DEFAULT` clause denotes is a default of the same field in turn: it is accepted,
stands for the same value and has the same clause (`Dialect.defaultClause_canonical`).  This
holds of every type but the real numbers, and of truth values wherever they are written as
words.
-/

namespace SqlDialects

open Text (Points)

namespace Dialect

open Sql (denoted? denoted?_quoteLiteral denoted?_of_head?)

variable {dialect : Dialect}

/-! ## Clauses -/

/-- How a dialect writes the literal of a value. -/
def literalOf (dialect : Dialect) (sqlType : SqlType) (value : DefaultValue) : Points :=
  if (dialect.converterFor sqlType).quotesDefault then quoteLiteral value.literal else value.literal

theorem defaultClause_eq_ok_iff {field : FieldSpec} {content clause : Points}
    (hContent : field.default = some content) :
    dialect.defaultClause field = .ok clause ↔
      ∃ value, (dialect.converterFor field.sqlType).parseDefault field.name content = .ok value ∧
        clause = "DEFAULT " ++ dialect.literalOf field.sqlType value := by
  simp only [defaultClause, hContent]
  cases hParsed : (dialect.converterFor field.sqlType).parseDefault field.name content with
  | error rejection => simp
  | ok value =>
      simp only [Except.ok.injEq]
      constructor
      · rintro rfl
        exact ⟨value, rfl, rfl⟩
      · rintro ⟨_, rfl, rfl⟩
        rfl

theorem denoted?_literalOf {sqlType : SqlType} {fieldName : String} {content : Points}
    {value : DefaultValue}
    (hParsed : (dialect.converterFor sqlType).parseDefault fieldName content = .ok value) :
    denoted? (dialect.literalOf sqlType value) = some value.literal := by
  cases hQuotes : (dialect.converterFor sqlType).quotesDefault with
  | true => rw [literalOf, if_pos hQuotes, denoted?_quoteLiteral]
  | false =>
      -- Only numerals and words go without quotes, and no apostrophe starts them.
      rw [literalOf, if_neg (by simp [hQuotes])]
      apply denoted?_of_head?
      intro hHead
      obtain ⟨word, hWord, hNumeral⟩ := parseDefault_isNumeral hQuotes hParsed
      have hMem := List.mem_of_head? hHead
      rw [hWord, Points.toList_ofString, List.mem_map] at hMem
      obtain ⟨c, hChar, hApostrophe⟩ := hMem
      cases hApostrophe
      exact absurd (hNumeral _ hChar) (by decide)

/-! ## Types -/

/-- The types whose defaults are written as they are read. -/
def HasCanonicalDefaults (dialect : Dialect) : SqlType → Prop
  | .string | .longString | .char | .date | .byte | .short | .int | .long | .decimal | .uuid
  | .byteArray => True
  | .boolean => dialect = mysql ∨ dialect = postgres
  | .float | .double | .serializedObject => False

theorem rereads_converterFor (hBuiltin : dialect ∈ builtin) {sqlType : SqlType}
    (hType : dialect.HasCanonicalDefaults sqlType) :
    (dialect.converterFor sqlType).rereads = true := by
  rcases dialect.converterFor_cases hBuiltin sqlType with
    hStandard | ⟨rfl, hNumber⟩ | ⟨-, -, hByte⟩
  · rw [hStandard]
    cases sqlType <;> first | rfl | cases hType
  · rcases hType with rfl | rfl <;> cases hNumber
  · rw [hByte]
    rfl

/-! ## The theorem -/

/-- The text that a literal denotes is a default of the field in turn. -/
structure IsCanonical (dialect : Dialect) (field : Field) (content literal denoted : Points)
    (value : DefaultValue) : Prop where
  denotes : denoted? literal = some denoted
  parsed : (dialect.converterFor field.sqlType).parseDefault field.name content = .ok value
  reparsed : (dialect.converterFor field.sqlType).parseDefault field.name denoted = .ok value
  rendered : dialect.defaultClause (field.withDefault denoted).toFieldSpec =
    .ok ("DEFAULT " ++ literal)
  accepted : ∀ form entries, Field.check form (.mapping entries) = .valid field →
    Field.check form (.mapping (Value.insertEntry "default" (.ofPoints denoted) entries)) =
      .valid (field.withDefault denoted)

/-- A `DEFAULT` clause is canonical: the text that its literal denotes is accepted in place of
the default, stands for the same value and has the same clause. -/
theorem defaultClause_canonical (hBuiltin : dialect ∈ builtin) {field : Field}
    (hType : dialect.HasCanonicalDefaults field.sqlType) {content clause : Points}
    (hContent : field.default = some content)
    (hClause : dialect.defaultClause field.toFieldSpec = .ok clause) :
    ∃ literal denoted value, clause = "DEFAULT " ++ literal ∧
      dialect.IsCanonical field content literal denoted value := by
  obtain ⟨value, hParsed, rfl⟩ := (defaultClause_eq_ok_iff hContent).1 hClause
  have hReparsed := Converter.parseDefault_literal (rereads_converterFor hBuiltin hType) hParsed
  refine ⟨_, value.literal, value, rfl, ?_⟩
  exact {
    denotes := denoted?_literalOf hParsed
    parsed := hParsed
    reparsed := hReparsed
    rendered := (defaultClause_eq_ok_iff rfl).2 ⟨value, hReparsed, rfl⟩
    accepted := fun form entries hField =>
      Field.check_insertDefault_valid hField (Field.checkDefault_ofPoints value.literal) }

/-- A date given by its week, with an offset to the microsecond. -/
def weeklyMoment : Field where
  name := "at"
  sqlType := .date
  width := 0
  columnName := none
  id := false
  generatedId := false
  generatedIdSequence := none
  allowGeneratedIdInsert := false
  nullable := true
  unique := false
  default := some " 2020-W53-7x03:04:05,5+02:30:15.000123\t"
  name_ne_empty := by decide
  oneIdFlag := by decide
  insertNeedsGeneratedId := by decide

def weeklyClause : Points :=
  "DEFAULT '2021-01-03 03:04:05.500000+02:30:15.000123'"

theorem defaultClause_weeklyMoment :
    postgres.defaultClause weeklyMoment.toFieldSpec = .ok weeklyClause := by
  decide +kernel

theorem defaultClause_canonical_weeklyMoment :
    ∃ literal denoted value, weeklyClause = "DEFAULT " ++ literal ∧
      postgres.IsCanonical weeklyMoment " 2020-W53-7x03:04:05,5+02:30:15.000123\t" literal denoted
        value :=
  defaultClause_canonical postgres_mem_builtin (by trivial) rfl defaultClause_weeklyMoment

end Dialect

end SqlDialects
