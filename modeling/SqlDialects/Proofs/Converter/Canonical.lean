import SqlDialects.Proofs.Calendar.Iso8601
import SqlDialects.Proofs.Converter.Literals

/-!
# Canonical default literals

Most converters read what they write of a default themselves: as the same value
(`Converter.parseDefault_literal`).  The exceptions are truth values that are written as
numbers and read as words, and real numbers.
-/

namespace SqlDialects

open Text (Points IllFormed)

namespace Converter

/-- Whether a converter reads the literals that it writes. -/
def rereads : Converter → Bool
  | booleanNumber | real _ => false
  | _ => true

/-! ## The readers -/

theorem isWritable_of_inRange {kind : IntegerKind} {number : Int}
    (hRange : kind.least ≤ number ∧ number ≤ kind.greatest) : Number.isWritable number = true := by
  apply Number.isWritable_of_natAbs_lt 19 _ (by decide)
  have hLeast : -(2 ^ 63 : Int) ≤ kind.least := by cases kind <;> decide
  have hGreatest : kind.greatest < (2 ^ 63 : Int) := by cases kind <;> decide
  rw [Nat.pow_eq]
  omega

theorem parseInteger_integerText (kind : IntegerKind) {number : Int}
    (hNumber : Number.isWritable number = true) :
    parseInteger kind (Number.integerText number) =
      if kind.least ≤ number ∧ number ≤ kind.greatest then .ok (.integer number)
      else .error (.outsideRange kind) := by
  rw [parseInteger, Text.trim_of_isNumeral (Sql.isNumeral_integerText number),
    Number.readInteger_integerText hNumber]

theorem parseDecimal_toText {negative : Bool} {coefficient : Nat} {exponent : Int}
    (hFits : Decimal.fits coefficient exponent = true) :
    parseDecimal (Decimal.finite negative coefficient exponent).toText =
      .ok (.decimal (.finite negative coefficient exponent)) := by
  rw [parseDecimal, Text.trim_of_isNumeral (Sql.isNumeral_toText _), Decimal.read_toText hFits]
  rfl

theorem parseMoment_isoText (separator : Char) (moment : DateTime) :
    parseMoment (moment.isoText separator) = .ok (.moment moment.asRead) := by
  rw [parseMoment, Calendar.trim_isoText, Calendar.readIsoText, DateTime.isoText,
    String.toList_ofList, Calendar.readIso_isoChars]

theorem parseMoment_isoText_date (date : Date) :
    parseMoment date.isoText = .ok (.moment (DateTime.ofDate date)) := by
  rw [parseMoment, Calendar.trim_isoText_date, Calendar.readIsoText, Date.isoText,
    String.toList_ofList, Calendar.readIso_isoChars_date]

theorem parseUuid_toText (identifier : Uuid) :
    parseUuid identifier.toText = .ok (.text identifier.toText) := by
  rw [parseUuid, Uuid.trim_toText, Uuid.read_toText]

theorem parseBoolean_literal (flag : Bool) :
    parseBoolean (if flag then "TRUE" else "FALSE") = .ok flag := by
  cases flag <;> decide +kernel

/-! ## Inversion -/

section

variable {kind : IntegerKind} {content : String} {value : DefaultValue}

theorem parseInteger_eq_ok (hRead : parseInteger kind content = .ok value) :
    ∃ number, value = .integer number ∧ kind.least ≤ number ∧ number ≤ kind.greatest := by
  unfold parseInteger at hRead
  split at hRead
  · cases hRead
  · next number _ =>
    split at hRead
    · next hRange =>
      cases hRead
      exact ⟨number, rfl, hRange⟩
    · cases hRead

theorem parseDecimal_eq_ok (hRead : parseDecimal content = .ok value) :
    ∃ negative coefficient exponent, value = .decimal (.finite negative coefficient exponent) ∧
      Decimal.fits coefficient exponent = true := by
  unfold parseDecimal at hRead
  split at hRead
  · cases hRead
  · next number hNumber =>
    split at hRead
    · next hFinite =>
      cases hRead
      obtain ⟨negative, coefficient, exponent, rfl, hFits⟩ :=
        Decimal.exists_finite_of_read hNumber hFinite
      exact ⟨negative, coefficient, exponent, rfl, hFits⟩
    · cases hRead

theorem parseMoment_eq_ok (hRead : parseMoment content = .ok value) :
    ∃ moment : DateTime, value = .moment moment ∧ moment.asRead = moment := by
  unfold parseMoment at hRead
  split at hRead
  · cases hRead
  · next moment hMoment =>
    cases hRead
    exact ⟨moment, rfl, Calendar.asRead_of_readIso hMoment⟩

theorem parseUuid_eq_ok (hRead : parseUuid content = .ok value) :
    ∃ identifier : Uuid, value = .text identifier.toText := by
  unfold parseUuid at hRead
  split at hRead
  · cases hRead
  · next identifier _ =>
    cases hRead
    exact ⟨identifier, rfl⟩

theorem parseIllFormedMoment_eq_ok {content : IllFormed}
    (hRead : parseIllFormedMoment content = .ok value) :
    ∃ moment : DateTime, value = .moment moment ∧ moment.asRead = moment := by
  unfold parseIllFormedMoment at hRead
  split at hRead
  · cases hRead
  · next moment hMoment =>
    cases hRead
    exact ⟨moment, rfl, Calendar.asRead_of_readIsoPoints hMoment⟩

end

/-! ## Reading again -/

/-- The literal of a value is read as that value. -/
def IsReread (converter : Converter) (value : DefaultValue) : Prop :=
  ∃ text : String, value.literal = text ∧ converter.readDefault text = .ok value

theorem isReread_integer {kind : IntegerKind} {content : String} {value : DefaultValue}
    (hRead : parseInteger kind content = .ok value) {converter : Converter}
    (hKind : ∀ text, converter.readDefault text = parseInteger kind text) :
    converter.IsReread value := by
  obtain ⟨number, rfl, hRange⟩ := parseInteger_eq_ok hRead
  refine ⟨Number.integerText number, rfl, ?_⟩
  rw [hKind, parseInteger_integerText kind (isWritable_of_inRange hRange), if_pos hRange]

theorem isReread_moment {moment : DateTime} (hSame : moment.asRead = moment) :
    date.IsReread (.moment moment) := by
  refine ⟨moment.isoText ' ', rfl, ?_⟩
  rw [readDefault, parseMoment_isoText, hSame]

theorem isReread_boolean {content : String} {value : DefaultValue}
    (hRead : boolean.readDefault content = .ok value) : boolean.IsReread value := by
  cases hFlag : parseBoolean content with
  | error reason =>
      rw [readDefault, hFlag] at hRead
      cases hRead
  | ok flag =>
      rw [readDefault, hFlag] at hRead
      cases hRead
      refine ⟨if flag then "TRUE" else "FALSE", by cases flag <;> rfl, ?_⟩
      rw [readDefault, parseBoolean_literal]
      rfl

theorem isReread_of_readDefault {converter : Converter} (hRereads : converter.rereads = true)
    {content : String} {value : DefaultValue} (hRead : converter.readDefault content = .ok value) :
    converter.IsReread value := by
  cases converter with
  | text kind =>
      cases hRead
      exact ⟨content, rfl, rfl⟩
  | char =>
      have hSame := hRead
      simp only [readDefault] at hRead
      split at hRead
      · cases hRead
        exact ⟨content, rfl, hSame⟩
      · cases hRead
  | boolean => exact isReread_boolean hRead
  | booleanNumber => cases hRereads
  | date =>
      have hMoment : parseMoment content = .ok value := hRead
      obtain ⟨moment, rfl, hSame⟩ := parseMoment_eq_ok hMoment
      exact isReread_moment hSame
  | integer kind =>
      have hInteger : parseInteger kind content = .ok value := hRead
      exact isReread_integer hInteger fun _ => rfl
  | byteInShort =>
      have hInteger : parseInteger .short content = .ok value := hRead
      exact isReread_integer hInteger fun _ => rfl
  | real kind => cases hRereads
  | decimal =>
      have hDecimal : parseDecimal content = .ok value := hRead
      obtain ⟨negative, coefficient, exponent, rfl, hFits⟩ := parseDecimal_eq_ok hDecimal
      refine ⟨(Decimal.finite negative coefficient exponent).toText, rfl, ?_⟩
      rw [readDefault, parseDecimal_toText hFits]
  | uuid =>
      have hUuid : parseUuid content = .ok value := hRead
      obtain ⟨identifier, rfl⟩ := parseUuid_eq_ok hUuid
      refine ⟨identifier.toText, rfl, ?_⟩
      rw [readDefault, parseUuid_toText]
  | bytes =>
      cases hRead
      exact ⟨content, rfl, rfl⟩
  | archive => cases hRead

theorem IsReread.parseDefault {converter : Converter} {value : DefaultValue}
    (hValue : converter.IsReread value) (fieldName : String) :
    converter.parseDefault fieldName value.literal = .ok value := by
  obtain ⟨text, hLiteral, hRead⟩ := hValue
  rw [Converter.parseDefault, hLiteral, Points.content_ofString]
  simp only [hRead]
  rfl

/-- What is read of a text with halves of pairs is that text, or has no halves any more. -/
theorem literal_of_parseIllFormed {converter : Converter} {fieldName : String}
    {illFormed : IllFormed} {value : DefaultValue}
    (hRead : converter.parseIllFormed fieldName illFormed = .ok value) :
    value.literal = illFormed.toPoints ∨ converter.IsReread value := by
  cases converter with
  | text kind =>
      cases hRead
      exact .inl rfl
  | char =>
      simp only [parseIllFormed] at hRead
      split at hRead
      · cases hRead
        exact .inl rfl
      · cases hRead
  | date =>
      cases hMoment : parseIllFormedMoment illFormed with
      | error reason =>
          rw [parseIllFormed, hMoment] at hRead
          cases hRead
      | ok other =>
          rw [parseIllFormed, hMoment] at hRead
          cases hRead
          obtain ⟨moment, rfl, hSame⟩ := parseIllFormedMoment_eq_ok hMoment
          exact .inr (isReread_moment hSame)
  | _ => cases hRead

/-- What is written of a default that was read is read as the same value. -/
theorem parseDefault_literal {converter : Converter} (hRereads : converter.rereads = true)
    {fieldName : String} {content : Points} {value : DefaultValue}
    (hParsed : converter.parseDefault fieldName content = .ok value) :
    converter.parseDefault fieldName value.literal = .ok value := by
  rcases parseDefault_eq_ok_iff.1 hParsed with ⟨text, -, hRead⟩ | ⟨illFormed, hIll, hRead⟩
  · exact (isReread_of_readDefault hRereads hRead).parseDefault fieldName
  · rcases literal_of_parseIllFormed hRead with hLiteral | hReread
    · rw [hLiteral, Points.eq_of_content hIll]
      exact hParsed
    · exact hReread.parseDefault fieldName

end Converter

end SqlDialects
