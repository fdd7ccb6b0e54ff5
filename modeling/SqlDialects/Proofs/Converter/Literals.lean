import SqlDialects.Ddl.Column
import SqlDialects.Proofs.Converter.RoundTrip

/-!
# Faults of default literals

A converter reads a default literal or tells what is wrong with it, save that bytes are asked
of an ill-formed text in vain (`Converter.parseDefault_cases`).  A default that is read is
written as well (`Dialect.defaultClause_isOk`).
-/

namespace SqlDialects

open Text (Points IllFormed)

namespace Converter

variable {converter : Converter} {fieldName : String} {literal : Points}

theorem parseDefault_of_isWellFormed (converter : Converter) (fieldName : String)
    (hFormed : literal.isWellFormed = true) :
    converter.parseDefault fieldName literal =
      (converter.readDefault literal.shown).mapError fun reason =>
        .malformed ⟨fieldName, literal, reason⟩ := by
  rw [parseDefault, Points.content, dif_pos hFormed]

theorem parseDefault_of_not_isWellFormed (converter : Converter) (fieldName : String)
    (hFormed : literal.isWellFormed = false) :
    converter.parseDefault fieldName literal =
      converter.parseIllFormed fieldName ⟨literal, hFormed⟩ := by
  rw [parseDefault, Points.content, dif_neg (by simp [hFormed])]

/-- The outcome of reading a literal: a value, or a fault that names the field and the text. -/
def Reports (fieldName : String) (literal : Points) (outcome : Except DefaultError DefaultValue) :
    Prop :=
  (∃ value, outcome = .ok value) ∨
    ∃ reason, outcome = .error (.malformed ⟨fieldName, literal, reason⟩)

theorem reports_mapError {outcome : Except DefaultReason DefaultValue} :
    Reports fieldName literal
      (outcome.mapError fun reason => .malformed ⟨fieldName, literal, reason⟩) := by
  cases outcome with
  | error reason => exact .inr ⟨reason, rfl⟩
  | ok value => exact .inl ⟨value, rfl⟩

theorem reports_parseIllFormed (hOther : converter ≠ .bytes) (content : IllFormed) :
    Reports fieldName content.toPoints (converter.parseIllFormed fieldName content) := by
  cases converter
  case text => exact .inl ⟨_, rfl⟩
  case bytes => exact absurd rfl hOther
  case date => exact reports_mapError
  case char =>
    by_cases hLength : content.length = 1
    · exact .inl ⟨.illFormed content, by simp [parseIllFormed, hLength]⟩
    · exact .inr ⟨.notSingleCharacter, by simp [parseIllFormed, hLength]⟩
  all_goals exact .inr ⟨_, rfl⟩

/-- What reading a literal comes to.  Only the bytes of an ill-formed text do not come to a
value or a fault of the literal. -/
theorem parseDefault_cases (converter : Converter) (fieldName : String) (literal : Points) :
    (Reports fieldName literal (converter.parseDefault fieldName literal) ∧
        ¬(converter = .bytes ∧ literal.isWellFormed = false)) ∨
      (converter = .bytes ∧ ∃ content : IllFormed, content.toPoints = literal ∧
        converter.parseDefault fieldName literal =
          .error (.unencodable content.encodingFault)) := by
  by_cases hFormed : literal.isWellFormed = true
  · left
    rw [parseDefault_of_isWellFormed converter fieldName hFormed]
    exact ⟨reports_mapError, by simp [hFormed]⟩
  · rw [Bool.not_eq_true] at hFormed
    rw [parseDefault_of_not_isWellFormed converter fieldName hFormed]
    by_cases hBytes : converter = .bytes
    · right
      subst hBytes
      exact ⟨rfl, ⟨literal, hFormed⟩, rfl, rfl⟩
    · left
      exact ⟨reports_parseIllFormed hBytes ⟨literal, hFormed⟩, by simp [hBytes]⟩

theorem exists_reason_of_parseDefault {error : DefaultError}
    (hFormed : literal.isWellFormed = true)
    (hParsed : converter.parseDefault fieldName literal = .error error) :
    ∃ reason, error = .malformed ⟨fieldName, literal, reason⟩ := by
  rcases converter.parseDefault_cases fieldName literal with
    ⟨⟨value, hValue⟩ | ⟨reason, hReason⟩, -⟩ | ⟨-, content, rfl, -⟩
  · simp [hParsed] at hValue
  · exact ⟨reason, by simpa [hParsed] using hReason⟩
  · simp [content.not_wellFormed] at hFormed

theorem parseDefault_eq_ok_iff {value : DefaultValue} :
    converter.parseDefault fieldName literal = .ok value ↔
      (∃ text, literal.content = .inl text ∧ converter.readDefault text = .ok value) ∨
        ∃ illFormed, literal.content = .inr illFormed ∧
          converter.parseIllFormed fieldName illFormed = .ok value := by
  rw [parseDefault]
  cases hContent : literal.content with
  | inl text => cases hRead : converter.readDefault text <;> simp [Except.mapError, hRead]
  | inr illFormed => simp

theorem literal_of_text {value : DefaultValue}
    (hText : (∃ kind, converter = .text kind) ∨ converter = .char)
    (hParsed : converter.parseDefault fieldName literal = .ok value) : value.literal = literal := by
  rcases parseDefault_eq_ok_iff.1 hParsed with
    ⟨text, hContent, hRead⟩ | ⟨illFormed, hContent, hRead⟩
  · have hKept : value = .text text := by
      rcases hText with ⟨kind, rfl⟩ | rfl
      · exact (Except.ok.inj hRead).symm
      · rw [readDefault] at hRead
        split at hRead
        · exact (Except.ok.inj hRead).symm
        · cases hRead
    rw [hKept]
    exact Points.ofString_of_content hContent
  · have hKept : value = .illFormed illFormed := by
      rcases hText with ⟨kind, rfl⟩ | rfl
      · exact (Except.ok.inj hRead).symm
      · simp only [parseIllFormed] at hRead
        split at hRead
        · exact (Except.ok.inj hRead).symm
        · cases hRead
    rw [hKept]
    exact Points.eq_of_content hContent

end Converter

namespace Dialect

variable {dialect : Dialect}

theorem converterFor_eq_bytes_iff (hBuiltin : dialect ∈ builtin) (sqlType : SqlType) :
    dialect.converterFor sqlType = .bytes ↔ sqlType = .byteArray := by
  rcases dialect.converterFor_cases hBuiltin sqlType with
    hStandard | ⟨rfl, hNumber⟩ | ⟨-, rfl, hByte⟩
  · rw [hStandard]
    cases sqlType <;> simp [Converter.standard]
  · simp [hNumber]
  · simp [hByte]

theorem defaultClause_isOk {field : FieldSpec} {literal : Points} {value : DefaultValue}
    (hDefault : field.default = some literal)
    (hParsed : (dialect.converterFor field.sqlType).parseDefault field.name literal = .ok value) :
    ∃ clause, dialect.defaultClause field = .ok clause := by
  simp only [defaultClause, hDefault, hParsed, Except.ok.injEq, exists_eq']

end Dialect

end SqlDialects
