import Mathlib.Algebra.Group.Int.Defs
import Mathlib.Algebra.Group.Nat.Defs
import SqlDialects.Proofs.Ddl.Canonical

/-!
# Native defaults

A default may be given as a truth value, an integer, a date or a point in time.  It is kept
as text, and the literal of that text denotes the value again
(`Dialect.keepsNatives_check`).  Two kinds of values are lost: an integer of too many digits
has no text, so that its field is refused, and an offset of less than a second is read as
none at all.
-/

namespace SqlDialects

open Text (Points)

namespace Field

/-! ## Validation -/

theorem isWritable_iff (number : Int) :
    Number.isWritable number = true ↔ number.natAbs < 10 ^ Number.maxDigits := by
  rw [Number.isWritable, decide_eq_true_eq, Nat.pow_eq]

theorem checkDefault_integer {number : Int} (hNumber : number.natAbs < 10 ^ Number.maxDigits) :
    checkDefault (.integer number) = .valid (some (Number.integerText number)) := by
  have hWritable := (isWritable_iff number).2 hNumber
  simp only [checkDefault, hWritable, if_true]

theorem checkDefault_integer_of_le {number : Int}
    (hNumber : 10 ^ Number.maxDigits ≤ number.natAbs) :
    checkDefault (.integer number) =
      Checked.broken (.rejected Number.unwritableMessage) (.integer number) := by
  have hUnwritable : ¬Number.isWritable number = true := by
    rw [isWritable_iff]
    exact Nat.not_lt.2 hNumber
  simp only [checkDefault, hUnwritable]
  rfl

end Field

theorem IntegerKind.inRange_iff (kind : IntegerKind) (number : Int) :
    (kind.least ≤ number ∧ number ≤ kind.greatest) ↔
      (-(2 ^ (kind.bits - 1)) ≤ number ∧ number < 2 ^ (kind.bits - 1)) := by
  have hPower : ((Nat.pow 2 (kind.bits - 1) : Nat) : Int) = 2 ^ (kind.bits - 1) := by
    rw [Nat.pow_eq]
    exact Int.natCast_pow 2 _
  rw [least, greatest, hPower]
  omega

namespace Dialect

open Sql (denoted? denoted?_quoteLiteral)

/-! ## Clauses -/

/-- A validated field has a `DEFAULT` clause, or none for a given reason. -/
def RendersAs (dialect : Dialect) (validated : Checked Field) (clause : Except RenderError Points) :
    Prop :=
  ∃ field, validated = .valid field ∧ dialect.defaultClause field.toFieldSpec = clause

/-- A literal denotes a text that the cursor reads as a point in time. -/
def ReadsAs (literal : Points) (moment : DateTime) : Prop :=
  ∃ text : String, denoted? literal = some (text : Points) ∧
    ∀ (row : Row) (column : Int), row.get column = .ok (.text text) →
      row.read .timestamp column = .ok (.moment moment)

/-- The word or the numeral of a truth value. -/
def truthLiteral (dialect : Dialect) (flag : Bool) : String :=
  if dialect.name = "mysql" ∨ dialect.name = "postgres" then if flag then "TRUE" else "FALSE"
  else if flag then "1" else "0"

/-- The number of bits of the integers of a type. -/
def integerBits? (dialect : Dialect) : SqlType → Option Nat
  | .byte => some (if dialect.name = "sqlserver" then 16 else 8)
  | .short => some 16
  | .int => some 32
  | .long => some 64
  | _ => none

/-- What becomes of native values in place of the default of a field. -/
structure KeepsNatives (dialect : Dialect) (field : Field) (validate : Value → Checked Field) :
    Prop where
  boolean : field.sqlType = .boolean → ∀ flag,
    dialect.RendersAs (validate (.boolean flag))
      (.ok ("DEFAULT " ++ (dialect.truthLiteral flag : Points)))
  inRange : ∀ bits, dialect.integerBits? field.sqlType = some bits → ∀ number : Int,
    -(2 ^ (bits - 1)) ≤ number → number < 2 ^ (bits - 1) →
      dialect.RendersAs (validate (.integer number))
        (.ok ("DEFAULT " ++ (Number.integerText number : Points)))
  outsideRange : ∀ bits, dialect.integerBits? field.sqlType = some bits → ∀ number : Int,
    number < -(2 ^ (bits - 1)) ∨ 2 ^ (bits - 1) ≤ number → number.natAbs < 10 ^ Number.maxDigits →
      ∃ kind : IntegerKind, kind.bits = bits ∧
        dialect.RendersAs (validate (.integer number))
          (.error (.malformedDefault
            ⟨field.name, Number.integerText number, .outsideRange kind⟩))
  decimal : field.sqlType = .decimal → ∀ number : Int, number.natAbs < 10 ^ Number.maxDigits →
    dialect.RendersAs (validate (.integer number))
      (.ok ("DEFAULT " ++ (Number.integerText number : Points)))
  tooLong : ∀ number : Int, 10 ^ Number.maxDigits ≤ number.natAbs →
    validate (.integer number) =
      .invalid [⟨.rejected Number.unwritableMessage, [.key "default"], .integer number⟩]
  date : field.sqlType = .date → ∀ date : Date, ∃ literal,
    dialect.RendersAs (validate (.date date)) (.ok ("DEFAULT " ++ literal)) ∧
      ReadsAs literal (DateTime.ofDate date)
  moment : field.sqlType = .date → ∀ moment : DateTime, ∃ literal,
    dialect.RendersAs (validate (.moment moment)) (.ok ("DEFAULT " ++ literal)) ∧
      ReadsAs literal moment.asRead
  sameMoment : ∀ moment : DateTime, moment.asRead = moment ↔
    ∀ offset ∈ moment.offset, offset.microseconds = 0 ∨ 1000000 ≤ offset.microseconds.natAbs

/-! ## Literals -/

theorem readsAs_isoText (separator : Char) (moment : DateTime) :
    ReadsAs (quoteLiteral (moment.isoText separator)) moment.asRead := by
  refine ⟨moment.isoText separator, denoted?_quoteLiteral _, fun row column hGet => ?_⟩
  have hRead : Calendar.readIsoPoints (moment.isoText separator) = .ok moment.asRead := by
    simp only [Calendar.readIsoPoints, Points.content_ofString, Calendar.readIsoText,
      DateTime.isoText, String.toList_ofList, Calendar.readIso_isoChars]
  have hMoment : Value.asMoment (.text (moment.isoText separator)) = .ok moment.asRead := by
    have hText : Value.asText (.text (moment.isoText separator)) =
        .ok (.ofString (moment.isoText separator)) := rfl
    simp only [Value.asMoment, hText, bind, Except.bind, Value.momentOfText, hRead,
      Except.mapError]
  rw [Row.read_of_get hGet]
  simp only [Value.isNull, Row.convert, hMoment]
  rfl

variable {dialect : Dialect}

theorem converterFor_integer (hBuiltin : dialect ∈ builtin) {sqlType : SqlType} {bits : Nat}
    (hBits : dialect.integerBits? sqlType = some bits) :
    ∃ kind : IntegerKind, kind.bits = bits ∧
      (dialect.converterFor sqlType = .integer kind ∨
        (dialect.converterFor sqlType = .byteInShort ∧ kind = .short)) := by
  simp only [builtin, List.mem_cons, List.not_mem_nil, or_false] at hBuiltin
  cases sqlType <;> cases hBits
  case byte.refl =>
    rcases hBuiltin with rfl | rfl | rfl | rfl
    case inr.inr.inr => exact ⟨.short, rfl, .inr ⟨rfl, rfl⟩⟩
    all_goals exact ⟨.byte, rfl, .inl rfl⟩
  case short.refl =>
    rcases hBuiltin with rfl | rfl | rfl | rfl <;> exact ⟨.short, rfl, .inl rfl⟩
  case int.refl =>
    rcases hBuiltin with rfl | rfl | rfl | rfl <;> exact ⟨.int, rfl, .inl rfl⟩
  case long.refl =>
    rcases hBuiltin with rfl | rfl | rfl | rfl <;> exact ⟨.long, rfl, .inl rfl⟩

theorem converterFor_eq_standard (hBuiltin : dialect ∈ builtin) {sqlType : SqlType}
    (hBoolean : sqlType ≠ .boolean) (hByte : sqlType ≠ .byte) :
    dialect.converterFor sqlType = .standard sqlType := by
  rcases dialect.converterFor_cases hBuiltin sqlType with
    hStandard | ⟨hEqual, -⟩ | ⟨-, hEqual, -⟩
  · exact hStandard
  · exact absurd hEqual hBoolean
  · exact absurd hEqual hByte

theorem converterFor_boolean (hBuiltin : dialect ∈ builtin) :
    (dialect.converterFor .boolean = .boolean ∧
        ∀ flag, dialect.truthLiteral flag = if flag then "TRUE" else "FALSE") ∨
      (dialect.converterFor .boolean = .booleanNumber ∧
        ∀ flag, dialect.truthLiteral flag = if flag then "1" else "0") := by
  simp only [builtin, List.mem_cons, List.not_mem_nil, or_false] at hBuiltin
  rcases hBuiltin with rfl | rfl | rfl | rfl
  case inl | inr.inl => exact .inl ⟨rfl, fun _ => rfl⟩
  all_goals exact .inr ⟨rfl, fun _ => rfl⟩

theorem readDefault_integerText (hBuiltin : dialect ∈ builtin) {sqlType : SqlType} {bits : Nat}
    (hBits : dialect.integerBits? sqlType = some bits) {number : Int}
    (hNumber : Number.isWritable number = true) :
    ∃ kind : IntegerKind, kind.bits = bits ∧
      dialect.literalOf sqlType (.integer number) = Number.integerText number ∧
      (dialect.converterFor sqlType).readDefault (Number.integerText number) =
        if -(2 ^ (bits - 1)) ≤ number ∧ number < 2 ^ (bits - 1) then .ok (.integer number)
        else .error (.outsideRange kind) := by
  obtain ⟨kind, rfl, hConverter⟩ := converterFor_integer hBuiltin hBits
  have hParsed := Converter.parseInteger_integerText kind hNumber
  refine ⟨kind, rfl, ?_, ?_⟩
  · rcases hConverter with hKind | ⟨hByte, -⟩
    · rw [literalOf, hKind]
      rfl
    · rw [literalOf, hByte]
      rfl
  · rw [if_congr (kind.inRange_iff number) rfl rfl] at hParsed
    rcases hConverter with hKind | ⟨hByte, rfl⟩
    · rw [hKind, Converter.readDefault, hParsed]
    · rw [hByte, Converter.readDefault, hParsed]

section

variable {form : ObjectForm} {entries : List (Value × Value)} {field : Field}
  (hField : Field.check form (.mapping entries) = .valid field)
include hField

theorem rendersAs_of_readDefault {native : Value} {text : String} {value : DefaultValue}
    (hNative : Field.checkDefault native = .valid (some text))
    (hRead : (dialect.converterFor field.sqlType).readDefault text = .ok value) :
    dialect.RendersAs (Field.check form (.mapping (Value.insertEntry "default" native entries)))
      (.ok ("DEFAULT " ++ dialect.literalOf field.sqlType value)) := by
  refine ⟨field.withDefault text, Field.check_insertDefault_valid hField hNative, ?_⟩
  refine (defaultClause_eq_ok_iff rfl).2 ⟨value, ?_, rfl⟩
  simp [Converter.parseDefault, Field.withDefault, hRead, Except.mapError]

theorem rendersAs_of_readDefault_error {native : Value} {text : String} {reason : DefaultReason}
    (hNative : Field.checkDefault native = .valid (some text))
    (hRead : (dialect.converterFor field.sqlType).readDefault text = .error reason) :
    dialect.RendersAs (Field.check form (.mapping (Value.insertEntry "default" native entries)))
      (.error (.malformedDefault ⟨field.name, text, reason⟩)) := by
  refine ⟨field.withDefault text, Field.check_insertDefault_valid hField hNative, ?_⟩
  simp [defaultClause, Converter.parseDefault, Field.withDefault, hRead, Except.mapError,
    RenderError.ofDefault]

/-! ## The kinds of values -/

theorem rendersAs_boolean (hBuiltin : dialect ∈ builtin) (hType : field.sqlType = .boolean)
    (flag : Bool) :
    dialect.RendersAs
      (Field.check form (.mapping (Value.insertEntry "default" (.boolean flag) entries)))
      (.ok ("DEFAULT " ++ (dialect.truthLiteral flag : Points))) := by
  have hNative : Field.checkDefault (.boolean flag) =
      .valid (some (if flag then "true" else "false" : String)) := by
    cases flag <;> rfl
  have hParsed : Converter.parseBoolean (if flag then "true" else "false") = .ok flag := by
    cases flag <;> decide +kernel
  rcases converterFor_boolean hBuiltin with ⟨hConverter, hWord⟩ | ⟨hConverter, hNumeral⟩
  · have hRead : (dialect.converterFor field.sqlType).readDefault
        (if flag then "true" else "false") = .ok (.boolean flag) := by
      rw [hType, hConverter, Converter.readDefault, hParsed]
      rfl
    have hRenders := rendersAs_of_readDefault hField hNative hRead
    rw [literalOf, hType, hConverter] at hRenders
    rw [hWord]
    cases flag <;> exact hRenders
  · have hRead : (dialect.converterFor field.sqlType).readDefault
        (if flag then "true" else "false") = .ok (.integer (if flag then 1 else 0)) := by
      rw [hType, hConverter, Converter.readDefault, hParsed]
      rfl
    have hRenders := rendersAs_of_readDefault hField hNative hRead
    rw [literalOf, hType, hConverter] at hRenders
    rw [hNumeral]
    cases flag <;> exact hRenders

theorem rendersAs_date (hBuiltin : dialect ∈ builtin) (hType : field.sqlType = .date)
    {native : Value} {text : String} {moment : DateTime}
    (hNative : Field.checkDefault native = .valid (some text))
    (hParsed : Converter.parseMoment text = .ok (.moment moment)) :
    ∃ literal,
      dialect.RendersAs (Field.check form (.mapping (Value.insertEntry "default" native entries)))
          (.ok ("DEFAULT " ++ literal)) ∧
        ReadsAs literal moment := by
  have hConverter : dialect.converterFor .date = .date :=
    converterFor_eq_standard hBuiltin (by decide) (by decide)
  have hRead : (dialect.converterFor field.sqlType).readDefault text = .ok (.moment moment) := by
    rw [hType, hConverter, Converter.readDefault, hParsed]
  have hRenders := rendersAs_of_readDefault hField hNative hRead
  obtain ⟨_, hEqual, hSame⟩ := Converter.parseMoment_eq_ok hParsed
  cases hEqual
  have hReads := readsAs_isoText ' ' moment
  rw [hSame] at hReads
  rw [literalOf, hType, hConverter] at hRenders
  exact ⟨_, hRenders, hReads⟩

theorem rendersAs_decimal (hBuiltin : dialect ∈ builtin) (hType : field.sqlType = .decimal)
    {number : Int} (hNumber : number.natAbs < 10 ^ Number.maxDigits) :
    dialect.RendersAs
      (Field.check form (.mapping (Value.insertEntry "default" (.integer number) entries)))
      (.ok ("DEFAULT " ++ (Number.integerText number : Points))) := by
  have hConverter : dialect.converterFor .decimal = .decimal :=
    converterFor_eq_standard hBuiltin (by decide) (by decide)
  have hFits := Decimal.fits_ofInteger ((Field.isWritable_iff number).2 hNumber)
  have hRead : (dialect.converterFor field.sqlType).readDefault (Number.integerText number) =
      .ok (.decimal (.ofInteger number)) := by
    rw [hType, hConverter, Converter.readDefault, ← Decimal.toText_ofInteger]
    exact Converter.parseDecimal_toText hFits
  have hLiteral : dialect.literalOf field.sqlType (.decimal (.ofInteger number)) =
      Number.integerText number := by
    rw [literalOf, hType, hConverter, ← Decimal.toText_ofInteger]
    rfl
  rw [← hLiteral]
  exact rendersAs_of_readDefault hField (Field.checkDefault_integer hNumber) hRead

/-! ## The theorem -/

/-- A native value in place of the default of an accepted description is kept, but for
integers of too many digits and offsets of less than a second. -/
theorem keepsNatives_check (hBuiltin : dialect ∈ builtin) :
    dialect.KeepsNatives field fun native =>
      Field.check form (.mapping (Value.insertEntry "default" native entries)) where
  boolean hType flag := rendersAs_boolean hField hBuiltin hType flag
  inRange bits hBits number hLeast hGreatest := by
    have hDigits : number.natAbs < 10 ^ Number.maxDigits := by
      obtain ⟨kind, rfl, -⟩ := converterFor_integer hBuiltin hBits
      rw [← Field.isWritable_iff]
      exact Converter.isWritable_of_inRange ((kind.inRange_iff number).2 ⟨hLeast, hGreatest⟩)
    obtain ⟨kind, -, hLiteral, hRead⟩ := readDefault_integerText hBuiltin hBits
      ((Field.isWritable_iff number).2 hDigits)
    rw [if_pos ⟨hLeast, hGreatest⟩] at hRead
    rw [← hLiteral]
    exact rendersAs_of_readDefault hField (Field.checkDefault_integer hDigits) hRead
  outsideRange bits hBits number hOutside hDigits := by
    obtain ⟨kind, hKind, -, hRead⟩ := readDefault_integerText hBuiltin hBits
      ((Field.isWritable_iff number).2 hDigits)
    rw [if_neg (by omega)] at hRead
    exact ⟨kind, hKind,
      rendersAs_of_readDefault_error hField (Field.checkDefault_integer hDigits) hRead⟩
  decimal hType number hDigits := rendersAs_decimal hField hBuiltin hType hDigits
  tooLong number hLong := by
    rw [Field.check_insertDefault hField, Field.checkDefault_integer_of_le hLong]
    rfl
  date hType date :=
    rendersAs_date hField hBuiltin hType rfl (Converter.parseMoment_isoText_date date)
  moment hType moment :=
    rendersAs_date hField hBuiltin hType rfl (Converter.parseMoment_isoText 'T' moment)
  sameMoment moment := moment.asRead_eq_iff

end

/-! ## Values that are lost -/

/-- The description of a field that has nothing but a name and a type. -/
def plainEntries (sqlType : SqlType) : List (Value × Value) :=
  [(.text "name", .text "f"), (.text "type", .text sqlType.name)]

def plainField (sqlType : SqlType) : Field where
  name := "f"
  sqlType := sqlType
  width := 0
  columnName := none
  id := false
  generatedId := false
  generatedIdSequence := none
  allowGeneratedIdInsert := false
  nullable := true
  unique := false
  default := none
  name_ne_empty := by decide
  oneIdFlag := by simp [FieldSpec.idFlagCount]
  insertNeedsGeneratedId := nofun

theorem check_plainEntries (sqlType : SqlType) :
    Field.check .record (.mapping (plainEntries sqlType)) = .valid (plainField sqlType) := by
  cases sqlType <;> rfl

theorem keepsNatives_check_byte :
    sqlserver.KeepsNatives (plainField .byte) fun native =>
      Field.check .record
        (.mapping (Value.insertEntry "default" native (plainEntries .byte))) :=
  keepsNatives_check (check_plainEntries .byte) (by simp [builtin])

theorem RendersAs.unique {validated : Checked Field} {first second : Except RenderError Points}
    (hFirst : dialect.RendersAs validated first) (hSecond : dialect.RendersAs validated second) :
    first = second := by
  obtain ⟨field, rfl, rfl⟩ := hFirst
  obtain ⟨other, hOther, rfl⟩ := hSecond
  cases hOther
  rfl

theorem ReadsAs.unique {literal : Points} {first second : DateTime} (hFirst : ReadsAs literal first)
    (hSecond : ReadsAs literal second) : first = second := by
  obtain ⟨text, hText, hRead⟩ := hFirst
  obtain ⟨other, hOther, hOtherRead⟩ := hSecond
  have hSame : text = other := by
    rw [← Points.shown_ofString text, ← Points.shown_ofString other,
      Option.some.inj (hText.symm.trans hOther)]
  subst hSame
  have hFound := (hRead ⟨[.text text]⟩ 1 rfl).symm.trans (hOtherRead ⟨[.text text]⟩ 1 rfl)
  cases hFound
  rfl

/-- An integer of four thousand hexadecimal digits. -/
def longNumber : Int :=
  (Nat.pow 16 4000 - 1 : Nat)

/-- Noon with an offset of a microsecond. -/
def hastyMoment : DateTime :=
  ⟨⟨2020, 2, 29, by decide⟩, ⟨12, 0, 0, 0, by decide⟩, some ⟨1, by decide⟩⟩

/-- No fault of the default is told of an integer of too many digits, although its type does
not have it, and an offset of a microsecond is not read back. -/
theorem not_keeps_longNumber_hastyMoment :
    (2 ^ 31 ≤ longNumber ∧ ∀ fault, ¬postgres.RendersAs
      (Field.check .record
        (.mapping (Value.insertEntry "default" (.integer longNumber) (plainEntries .int))))
      (.error (.malformedDefault fault))) ∧
    ∀ literal, postgres.RendersAs
        (Field.check .record
          (.mapping (Value.insertEntry "default" (.moment hastyMoment) (plainEntries .date))))
        (.ok ("DEFAULT " ++ literal)) →
      ¬ReadsAs literal hastyMoment := by
  constructor
  · have hLong : 10 ^ Number.maxDigits ≤ longNumber.natAbs := by
      rw [← Nat.not_lt, ← Field.isWritable_iff]
      decide +kernel
    refine ⟨by decide +kernel, fun fault hRenders => ?_⟩
    obtain ⟨field, hField, -⟩ := hRenders
    rw [Field.check_insertDefault (check_plainEntries .int), Field.checkDefault_integer_of_le hLong]
      at hField
    cases hField
  · intro literal hRenders hReads
    have hNative : Field.checkDefault (.moment hastyMoment) =
        .valid (some (hastyMoment.isoText 'T')) := rfl
    -- The clause is unique, and its text is read without the offset.
    obtain ⟨other, hOther, hOtherReads⟩ := rendersAs_date (check_plainEntries .date)
      postgres_mem_builtin rfl hNative (Converter.parseMoment_isoText 'T' hastyMoment)
    obtain rfl : literal = other := Points.append_cancel (Except.ok.inj (hRenders.unique hOther))
    exact absurd (hReads.unique hOtherReads) (by decide)

end Dialect

end SqlDialects
