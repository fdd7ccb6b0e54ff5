import SqlDialects.Dialect.Vendors
import SqlDialects.Proofs.Text.Uuid

/-!
# Storing and reading back

A value that is stored in a column and read from it again is the same value, on every
dialect and for every type.  The one exception are bytes on a dialect that keeps them in
wider columns: whatever number stands there is read as the nearest byte.  A converter
recovers a value if this holds in every row that has the stored form in the column.
-/

namespace SqlDialects

open Text (Points)

/-- The values that a type is made for.  A text may be ill-formed. -/
inductive Admits : SqlType → Value → Prop
  | null (sqlType : SqlType) : Admits sqlType .null
  | string (content : Points) : Admits .string (.ofPoints content)
  | longString (content : Points) : Admits .longString (.ofPoints content)
  | char {content : Points} : content.length = 1 → Admits .char (.ofPoints content)
  | boolean (flag : Bool) : Admits .boolean (.boolean flag)
  | date (moment : DateTime) : Admits .date (.moment moment)
  | byte (number : Int) : Admits .byte (.integer number)
  | short (number : Int) : Admits .short (.integer number)
  | int (number : Int) : Admits .int (.integer number)
  | long (number : Int) : Admits .long (.integer number)
  | float (number : Float) : Admits .float (.real number)
  | double (number : Float) : Admits .double (.real number)
  | decimal (number : Decimal) : Admits .decimal (.decimal number)
  | uuid (identifier : Uuid) : Admits .uuid (.uuid identifier)
  | bytes (content : List UInt8) : Admits .byteArray (.bytes content)
  | archived (content : Value) : Admits .byteArray (.archived content)
  | object {value : Value} : value.holdsWindow = false → Admits .serializedObject value

/-! ## Columns -/

namespace Row

theorem get_set {row : Row} {column : Nat} (hFirst : 1 ≤ column)
    (hLast : column ≤ row.columns.length) (value : Value) :
    (row.set column value).get column = .ok value := by
  have hIndex : ((column : Int) - 1).toNat = column - 1 := by omega
  have hShort : column - 1 < row.columns.length := by omega
  simp only [get, set, hIndex, List.getElem?_set_self hShort]
  rw [if_neg (by omega)]

theorem read_of_get {row : Row} {column : Int} {value : Value} (hGet : row.get column = .ok value)
    (reader : Reader) :
    row.read reader column = if value.isNull then .ok .null else convert reader column value := by
  rw [read, hGet]
  rfl

end Row

namespace Converter

/-! ## Converters -/

/-- A value has a stored form, and whatever row that stands in, it is read as the result. -/
def Recovers (converter : Converter) (value result : Value) : Prop :=
  ∀ fieldName, ∃ stored, converter.toStorage fieldName value = .ok stored ∧
    ∀ (row : Row) (column : Int), row.get column = .ok stored →
      converter.fromStorage row column = .ok result

theorem recovers_null (converter : Converter) : converter.Recovers .null .null := by
  intro fieldName
  refine ⟨.null, rfl, fun row column hGet => ?_⟩
  rw [fromStorage, Row.read_of_get hGet]
  cases converter <;> rfl

theorem recovers_of_store {converter : Converter} {value result : Value} (stored : Value)
    (hValue : value.isNull = false) (hStored : stored.isNull = false)
    (hStore : ∀ fieldName, converter.store fieldName value = .ok stored)
    (hRead : ∀ column, (Row.convert converter.reader column stored).bind converter.restore =
      .ok result) :
    converter.Recovers value result := by
  intro fieldName
  refine ⟨stored, ?_, fun row column hGet => ?_⟩
  · rw [toStorage, hValue, hStore]
    rfl
  · rw [fromStorage, Row.read_of_get hGet, hStored]
    exact hRead column

theorem asText_ofPoints (content : Points) : (Value.ofPoints content).asText = .ok content := by
  obtain ⟨text, rfl, hValue⟩ | ⟨illFormed, rfl, hValue⟩ := Value.ofPoints_cases content <;>
    rw [hValue] <;> rfl

theorem isNull_ofPoints (content : Points) : (Value.ofPoints content).isNull = false := by
  obtain ⟨text, -, hValue⟩ | ⟨illFormed, -, hValue⟩ := Value.ofPoints_cases content <;>
    rw [hValue] <;> rfl

theorem convert_string_ofPoints (column : Int) (content : Points) :
    Row.convert .string column (.ofPoints content) = .ok (.ofPoints content) := by
  rw [Row.convert, asText_ofPoints]
  rfl

theorem convert_string_text (column : Int) (content : String) :
    Row.convert .string column (.text content) = .ok (.text content) := by
  rw [← Value.ofPoints_ofString, convert_string_ofPoints]

theorem recovers_text (kind : TextKind) (content : Points) :
    (text kind).Recovers (.ofPoints content) (.ofPoints content) := by
  refine recovers_of_store (.ofPoints content) (isNull_ofPoints content) (isNull_ofPoints content)
    (fun fieldName => ?_) fun column => ?_
  · rw [store, asText_ofPoints]
    rfl
  · rw [reader, convert_string_ofPoints]
    rfl

theorem recovers_char {content : Points} (hLength : content.length = 1) :
    char.Recovers (.ofPoints content) (.ofPoints content) := by
  refine recovers_of_store (.ofPoints content) (isNull_ofPoints content) (isNull_ofPoints content)
    (fun fieldName => ?_) fun column => ?_
  · simp only [store, singleCharacter, asText_ofPoints, bind, Except.bind, hLength, if_true]
    rfl
  · rw [reader, convert_string_ofPoints]
    rfl

theorem uuidOfText_toText (identifier : Uuid) :
    Value.uuidOfText identifier.toText = .ok identifier := by
  rw [Value.uuidOfText, Points.content_ofString]
  exact congrArg (Except.mapError _) (Uuid.read_toText identifier)

theorem recovers_uuid (identifier : Uuid) :
    uuid.Recovers (.uuid identifier) (.uuid identifier) := by
  have hText : (Value.uuid identifier).asText = .ok (.ofString identifier.toText) := rfl
  refine recovers_of_store (.text identifier.toText) rfl rfl ?_ ?_
  · intro fieldName
    simp only [store, uuidText, hText, bind, Except.bind, uuidOfText_toText]
    rfl
  · intro column
    simp only [reader, convert_string_text, Except.bind, restore, Value.points?, uuidOfText_toText]
    rfl

theorem recovers_archive {value : Value} (hArchivable : value.holdsWindow = false) :
    archive.Recovers value value := by
  by_cases hNull : value.isNull = true
  · cases value <;> first | exact recovers_null archive | cases hNull
  · refine recovers_of_store (.archived value) (by simpa using hNull) rfl (fun _ => ?_) fun _ => rfl
    rw [store, Value.archive, hArchivable]
    rfl

/-- The standard converter of a type recovers what the type is made for. -/
theorem recovers_standard {sqlType : SqlType} {value : Value} (hAdmits : Admits sqlType value) :
    (standard sqlType).Recovers value value := by
  cases hAdmits with
  | null => exact recovers_null _
  | string content => exact recovers_text .string content
  | longString content => exact recovers_text .longString content
  | char hLength => exact recovers_char hLength
  | boolean flag => exact recovers_of_store (.boolean flag) rfl rfl (fun _ => rfl) fun _ => rfl
  | date moment => exact recovers_of_store (.moment moment) rfl rfl (fun _ => rfl) fun _ => rfl
  | byte number => exact recovers_of_store (.integer number) rfl rfl (fun _ => rfl) fun _ => rfl
  | short number => exact recovers_of_store (.integer number) rfl rfl (fun _ => rfl) fun _ => rfl
  | int number => exact recovers_of_store (.integer number) rfl rfl (fun _ => rfl) fun _ => rfl
  | long number => exact recovers_of_store (.integer number) rfl rfl (fun _ => rfl) fun _ => rfl
  | float number => exact recovers_of_store (.real number) rfl rfl (fun _ => rfl) fun _ => rfl
  | double number => exact recovers_of_store (.real number) rfl rfl (fun _ => rfl) fun _ => rfl
  | decimal number => exact recovers_of_store (.decimal number) rfl rfl (fun _ => rfl) fun _ => rfl
  | uuid identifier => exact recovers_uuid identifier
  | bytes content => exact recovers_of_store (.bytes content) rfl rfl (fun _ => rfl) fun _ => rfl
  | archived content =>
      exact recovers_of_store (.archived content) rfl rfl (fun _ => rfl) fun _ => rfl
  | object hArchivable => exact recovers_archive hArchivable

theorem recovers_booleanNumber {value : Value} (hAdmits : Admits .boolean value) :
    booleanNumber.Recovers value value := by
  cases hAdmits with
  | null => exact recovers_null booleanNumber
  | boolean flag =>
      cases flag with
      | false => exact recovers_of_store (.integer 0) rfl rfl (fun _ => rfl) fun _ => rfl
      | true => exact recovers_of_store (.integer 1) rfl rfl (fun _ => rfl) fun _ => rfl

theorem recovers_byteInShort (number : Int) :
    byteInShort.Recovers (.integer number) (.integer (clampToByte number)) :=
  recovers_of_store (.integer number) rfl rfl (fun _ => rfl) fun _ => rfl

theorem clampToByte_eq (number : Int) : clampToByte number = max (-128) (min number 127) := by
  have hLeast : IntegerKind.byte.least = -128 := by decide
  have hGreatest : IntegerKind.byte.greatest = 127 := by decide
  rw [clampToByte, hLeast, hGreatest]
  split
  · omega
  · split <;> omega

end Converter

namespace Dialect

open Converter

/-! ## Dialects -/

theorem converterFor_cases {dialect : Dialect} (hBuiltin : dialect ∈ builtin) (sqlType : SqlType) :
    dialect.converterFor sqlType = .standard sqlType ∨
      (sqlType = .boolean ∧ dialect.converterFor sqlType = .booleanNumber) ∨
      (dialect = sqlserver ∧ sqlType = .byte ∧ dialect.converterFor sqlType = .byteInShort) := by
  simp only [builtin, List.mem_cons, List.not_mem_nil, or_false] at hBuiltin
  rcases hBuiltin with rfl | rfl | rfl | rfl
  case inl => exact .inl rfl
  case inr.inl => exact .inl rfl
  case inr.inr.inl =>
    cases sqlType <;> first | exact .inl rfl | exact .inr (.inl ⟨rfl, rfl⟩)
  case inr.inr.inr =>
    cases sqlType <;>
      first | exact .inl rfl | exact .inr (.inl ⟨rfl, rfl⟩) | exact .inr (.inr ⟨rfl, rfl, rfl⟩)

theorem recovers_converterFor {dialect : Dialect} (hBuiltin : dialect ∈ builtin)
    {sqlType : SqlType} {value : Value} (hAdmits : Admits sqlType value)
    (hOther : ¬(dialect = sqlserver ∧ sqlType = .byte)) :
    (dialect.converterFor sqlType).Recovers value value := by
  rcases dialect.converterFor_cases hBuiltin sqlType with
    hStandard | ⟨rfl, hNumber⟩ | ⟨hServer, hByte, -⟩
  · rw [hStandard]
    exact recovers_standard hAdmits
  · rw [hNumber]
    exact recovers_booleanNumber hAdmits
  · exact absurd ⟨hServer, hByte⟩ hOther

/-- What is read from a column in which a value was stored: the value or, for a byte on the
dialect that keeps bytes in wider columns, the nearest byte. -/
structure IsReadBack (dialect : Dialect) (sqlType : SqlType) (value : Value)
    (result : Except ConversionError Value) : Prop where
  same : ¬(dialect = sqlserver ∧ sqlType = .byte) → result = .ok value
  null : value = .null → result = .ok .null
  nearest : dialect = sqlserver → sqlType = .byte → ∀ number, value = .integer number →
    result = .ok (.integer (max (-128) (min number 127))) ∧
      (result = .ok value ↔ -128 ≤ number ∧ number ≤ 127)

theorem isReadBack_of_recovers {dialect : Dialect} {sqlType : SqlType} {value : Value}
    {result : Except ConversionError Value} (hResult : result = .ok value)
    (hOther : ¬(dialect = sqlserver ∧ sqlType = .byte)) :
    dialect.IsReadBack sqlType value result where
  same _ := hResult
  null hNull := hNull ▸ hResult
  nearest hServer hByte := absurd ⟨hServer, hByte⟩ hOther

theorem isReadBack_nearest (number : Int) :
    sqlserver.IsReadBack .byte (.integer number) (.ok (.integer (clampToByte number))) where
  same hOther := absurd ⟨rfl, rfl⟩ hOther
  null hNull := by cases hNull
  nearest _ _ other hEqual := by
    cases hEqual
    rw [clampToByte_eq]
    refine ⟨rfl, ?_⟩
    simp only [Except.ok.injEq, Value.integer.injEq]
    omega

theorem exists_readBack {dialect : Dialect} (hBuiltin : dialect ∈ builtin) {sqlType : SqlType}
    {value : Value} (hAdmits : Admits sqlType value) :
    ∃ result, (dialect.converterFor sqlType).Recovers value result ∧
      dialect.IsReadBack sqlType value (.ok result) := by
  by_cases hByte : dialect = sqlserver ∧ sqlType = .byte
  · obtain ⟨rfl, rfl⟩ := hByte
    cases hAdmits with
    | null =>
        refine ⟨.null, recovers_null _, ⟨fun _ => rfl, fun _ => rfl, ?_⟩⟩
        intro _ _ number hNumber
        cases hNumber
    | byte number => exact ⟨_, recovers_byteInShort number, isReadBack_nearest number⟩
  · exact ⟨value, recovers_converterFor hBuiltin hAdmits hByte, isReadBack_of_recovers rfl hByte⟩

/-! ## The theorem -/

/-- Storing a value in a column and reading the column gives the value back, but for numbers
beyond a byte on the dialect that keeps bytes in wider columns.  Any other row that has the
stored form in that column gives the same. -/
theorem fromStorage_toStorage {dialect : Dialect} (hBuiltin : dialect ∈ builtin)
    {sqlType : SqlType} {value : Value} (hAdmits : Admits sqlType value) {row : Row} {column : Nat}
    (hFirst : 1 ≤ column) (hLast : column ≤ row.columns.length) (fieldName : String) :
    ∃ stored, (dialect.converterFor sqlType).toStorage fieldName value = .ok stored ∧
      dialect.IsReadBack sqlType value
        ((dialect.converterFor sqlType).fromStorage (row.set column stored) column) ∧
      ∀ other : Row, other.get column = .ok stored →
        (dialect.converterFor sqlType).fromStorage other column =
          (dialect.converterFor sqlType).fromStorage (row.set column stored) column := by
  obtain ⟨result, hRecovers, hReadBack⟩ := exists_readBack hBuiltin hAdmits
  obtain ⟨stored, hStored, hRead⟩ := hRecovers fieldName
  have hHere := hRead (row.set column stored) column (Row.get_set hFirst hLast stored)
  refine ⟨stored, hStored, ?_, fun other hOther => ?_⟩
  · rw [hHere]
    exact hReadBack
  · rw [hHere]
    exact hRead other column hOther

def wideRow : Row :=
  ⟨[.text "before", .null, .text "after"]⟩

theorem fromStorage_toStorage_wideRow :
    ∃ stored, (sqlserver.converterFor .byte).toStorage "b" (.integer 300) = .ok stored ∧
      sqlserver.IsReadBack .byte (.integer 300)
        ((sqlserver.converterFor .byte).fromStorage (wideRow.set 2 stored) (2 : Nat)) ∧
      ∀ other : Row, other.get (2 : Nat) = .ok stored →
        (sqlserver.converterFor .byte).fromStorage other (2 : Nat) =
          (sqlserver.converterFor .byte).fromStorage (wideRow.set 2 stored) (2 : Nat) :=
  fromStorage_toStorage (by simp [builtin]) (.byte 300) (by decide) (by decide) "b"

end Dialect

end SqlDialects
