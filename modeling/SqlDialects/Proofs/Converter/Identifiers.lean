import SqlDialects.Proofs.Converter.Canonical
import SqlDialects.Proofs.Converter.RoundTrip
import SqlDialects.Proofs.Text.Spellings

/-!
# Stored identifiers

An identifier is stored as one text, whichever way it is written as a default or as a
value (`Converter.uuid_storesAs`).  That text is read and stored as itself, and a row that
holds it holds the identifier.
-/

namespace SqlDialects

open Text (Points)

namespace Uuid

open Number

/-- A text with five groups of small hexadecimal digits and hyphens between them, which
stand for a number of 128 bits. -/
structure IsGrouped (groups : List (List Char)) (number : Nat) (text : String) : Prop where
  length : text.length = 36
  written : text.toList = ['-'].intercalate groups
  lengths : groups.map List.length = [8, 4, 4, 4, 12]
  digits : ∀ c ∈ groups.flatten, IsHexDigit c
  value : hexValue 0 groups.flatten = number
  inRange : number < Nat.pow 2 128

/-- The digits of an identifier in its five groups. -/
def groups (identifier : Uuid) : List (List Char) :=
  let digits := identifier.hexDigits
  [digits.take 8, (digits.drop 8).take 4, (digits.drop 12).take 4, (digits.drop 16).take 4,
    digits.drop 20]

theorem flatten_groups (identifier : Uuid) : identifier.groups.flatten = identifier.hexDigits := by
  have hJoin (start count : Nat) :
      (identifier.hexDigits.drop start).take count ++ identifier.hexDigits.drop (start + count) =
        identifier.hexDigits.drop start := by
    rw [← List.drop_drop, List.take_append_drop]
  simp only [groups, List.flatten_cons, List.flatten_nil, List.append_nil]
  rw [hJoin 16 4, hJoin 12 4, hJoin 8 4, List.take_append_drop]

theorem intercalate_groups (identifier : Uuid) :
    ['-'].intercalate identifier.groups = identifier.toChars := by
  simp [groups, toChars, List.intercalate]

theorem lengths_groups (identifier : Uuid) :
    identifier.groups.map List.length = [8, 4, 4, 4, 12] := by
  simp only [groups, List.map_cons, List.map_nil, List.length_take, List.length_drop,
    length_hexDigits]
  rfl

theorem length_toText (identifier : Uuid) : identifier.toText.length = 36 := by
  have hLength := length_hexDigits identifier
  rw [toText, String.length_ofList, toChars]
  simp only [List.length_append, List.length_cons, List.length_take, List.length_drop, hLength]
  rfl

theorem isGrouped_toText (identifier : Uuid) :
    IsGrouped identifier.groups identifier.number identifier.toText where
  length := length_toText identifier
  written := by rw [intercalate_groups, toText, String.toList_ofList]
  lengths := lengths_groups identifier
  digits := by
    rw [flatten_groups]
    exact fun c => isHexDigit_of_mem_hexDigits
  value := by rw [flatten_groups, hexDigits, hexValue_hexDigits]
  inRange := identifier.inRange

end Uuid

namespace Converter

/-! ## The methods of the converter -/

theorem toStorage_uuid_eq_ok_iff {fieldName text : String} {stored : Value} :
    uuid.toStorage fieldName (.text text) = .ok stored ↔
      ∃ identifier, Uuid.read text = .ok identifier ∧ stored = .text identifier.toText := by
  have hStored : uuid.toStorage fieldName (.text text) = uuidText (.text text) := rfl
  have hText : (Value.text text).asText = .ok text := rfl
  rw [hStored, uuidText, hText]
  simp only [bind, Except.bind, Value.uuidOfText, Points.content_ofString]
  cases Uuid.read text with
  | error fault => simp [Except.mapError]
  | ok identifier => simp [Except.mapError, pure, Except.pure, eq_comm]

theorem fromStorage_uuid_text {row : Row} {column : Int} {text : String}
    (hGet : row.get column = .ok (.text text)) :
    uuid.fromStorage row column = (Value.uuidOfText text).map Value.uuid := by
  rw [fromStorage, Row.read_of_get hGet, if_neg (by simp [Value.isNull]), reader,
    convert_string_text]
  rfl

theorem parseDefault_uuid_text {fieldName text : String} {identifier : Uuid}
    (hRead : Uuid.read (Text.trim text) = .ok identifier) :
    uuid.parseDefault fieldName text = .ok (.text identifier.toText) := by
  rw [parseDefault, Points.content_ofString]
  simp only [readDefault, parseUuid, hRead]
  rfl

/-- A default that is read is a text of characters, without whose blanks it is an identifier. -/
theorem exists_read_of_parseDefault {fieldName : String} {literal : Points} {value : DefaultValue}
    (hParsed : uuid.parseDefault fieldName literal = .ok value) :
    ∃ text identifier, literal.content = .inl text ∧
      Uuid.read (Text.trim text) = .ok identifier ∧ value = .text identifier.toText := by
  rcases parseDefault_eq_ok_iff.1 hParsed with ⟨text, hText, hValue⟩ | ⟨illFormed, -, hValue⟩
  · simp only [readDefault, parseUuid] at hValue
    cases hRead : Uuid.read (Text.trim text) with
    | error fault =>
        rw [hRead] at hValue
        cases hValue
    | ok identifier =>
        rw [hRead] at hValue
        cases hValue
        exact ⟨text, identifier, hText, hRead, rfl⟩
  · cases hValue

/-! ## One stored form -/

/-- A text is the form in which an identifier is stored.  It has the usual groups, it is its
own stored form, a row that holds it holds the identifier, and whatever spells the
identifier is stored as it. -/
structure StoresAs (fieldName : String) (identifier : Uuid) (stored : String) : Prop where
  form : ∃ groups, Uuid.IsGrouped groups identifier.number stored
  parsed : uuid.parseDefault fieldName stored = .ok (.text stored)
  kept : uuid.toStorage fieldName (.text stored) = .ok (.text stored)
  restored : ∀ (row : Row) column, row.get column = .ok (.text stored) →
    uuid.fromStorage row column = .ok (.uuid identifier)
  shown : (Value.uuid identifier).toText = .ok stored
  spelled : ∀ spelling : identifier.Spelling,
    uuid.parseDefault fieldName spelling.text = .ok (.text stored)

theorem storesAs_toText (fieldName : String) (identifier : Uuid) :
    StoresAs fieldName identifier identifier.toText where
  form := ⟨_, Uuid.isGrouped_toText identifier⟩
  parsed := parseDefault_uuid_text (by rw [Uuid.trim_toText, Uuid.read_toText])
  kept := toStorage_uuid_eq_ok_iff.2 ⟨identifier, Uuid.read_toText identifier, rfl⟩
  restored row column hGet := by
    rw [fromStorage_uuid_text hGet, uuidOfText_toText]
    rfl
  shown := rfl
  spelled spelling := parseDefault_uuid_text spelling.read_trim

/-- Whatever text of an identifier is read as a default is stored in one form, and where the
same text can be stored as a value it is stored in that form too. -/
theorem uuid_storesAs {fieldName : String} {literal : Points} {value : DefaultValue}
    (hParsed : uuid.parseDefault fieldName literal = .ok value) :
    ∃ identifier stored, value = .text stored ∧ StoresAs fieldName identifier stored ∧
      ∀ other, uuid.toStorage fieldName (Value.ofPoints literal) = .ok other →
        other = .text stored := by
  obtain ⟨text, identifier, hText, hRead, rfl⟩ := exists_read_of_parseDefault hParsed
  refine ⟨identifier, _, rfl, storesAs_toText fieldName identifier, fun other hStored => ?_⟩
  have hValue : Value.ofPoints literal = .text text := by rw [Value.ofPoints, hText]
  rw [hValue] at hStored
  obtain ⟨own, hOwn, rfl⟩ := toStorage_uuid_eq_ok_iff.1 hStored
  -- The two readings differ in the blanks only, and with blanks one of them would fail.
  rw [Uuid.trim_eq_of_read hOwn hRead, hOwn] at hRead
  cases hRead
  rfl

/-- A default with capital letters, few hyphens, a prefix, braces and blanks. -/
def bracedDefault : String :=
  " \x7burn:uuid:ABCDEF0123456789-ABCDEF0123456789\x7d\n"

theorem uuid_storesAs_bracedDefault :
    uuid.parseDefault "id" bracedDefault = .ok (.text "abcdef01-2345-6789-abcd-ef0123456789") ∧
      ∃ identifier stored,
        DefaultValue.text "abcdef01-2345-6789-abcd-ef0123456789" = .text stored ∧
          StoresAs "id" identifier stored ∧
            ∀ other, uuid.toStorage "id" (Value.ofPoints bracedDefault) = .ok other →
              other = .text stored := by
  have hRead : Uuid.read (Text.trim bracedDefault) =
      .ok ⟨0xabcdef0123456789abcdef0123456789, by decide⟩ := by
    decide
  have hText : Uuid.toText ⟨0xabcdef0123456789abcdef0123456789, by decide⟩ =
      "abcdef01-2345-6789-abcd-ef0123456789" := by
    decide
  have hParsed : uuid.parseDefault "id" bracedDefault =
      .ok (.text "abcdef01-2345-6789-abcd-ef0123456789") := by
    rw [parseDefault_uuid_text hRead, hText]
  exact ⟨hParsed, uuid_storesAs hParsed⟩

end Converter

end SqlDialects
