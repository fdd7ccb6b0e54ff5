import Mathlib.Data.List.Forall2
import SqlDialects.Proofs.Field.Default
import SqlDialects.Table.Validation

/-!
# Which tables are accepted

A description whose values have the right types is accepted as a field if what it says is
consistent, and its fields are accepted as a table if their columns differ and at most one of
them is an id.  Of columns that repeat each other the first repetition is named, before any
id is counted (`Table.check_accepts`).
-/

namespace SqlDialects

open Checked
open Text (Points)

/-! ## Repetitions -/

theorem exists_of_firstRepeated? {α : Type} [DecidableEq α] {seen items : List α} {item : α}
    (hItem : firstRepeated? seen items = some item) :
    ∃ before after, items = before ++ item :: after ∧ before.Nodup ∧
      (∀ other ∈ before, other ∉ seen) ∧ (item ∈ before ∨ item ∈ seen) := by
  induction items generalizing seen with
  | nil => cases hItem
  | cons first items ih =>
      rw [firstRepeated?] at hItem
      split at hItem
      · next hSeen =>
        obtain rfl : first = item := Option.some.inj hItem
        exact ⟨[], items, rfl, .nil, by simp, .inr hSeen⟩
      · next hFresh =>
        obtain ⟨before, after, rfl, hNodup, hOthers, hRepeated⟩ := ih hItem
        simp only [List.mem_cons, not_or] at hOthers hRepeated
        refine ⟨first :: before, after, rfl, ?_, ?_, ?_⟩
        · exact List.nodup_cons.2 ⟨fun hMem => (hOthers first hMem).1 rfl, hNodup⟩
        · exact List.forall_mem_cons.2 ⟨hFresh, fun other hOther => (hOthers other hOther).2⟩
        · rw [List.mem_cons]
          rcases hRepeated with hBefore | hFirst | hSeen
          · exact .inl (.inr hBefore)
          · exact .inl (.inl hFirst)
          · exact .inr hSeen

namespace Checked

/-! ## Accepted values -/

section

variable {α β : Type} {checked : Checked α} {result : β}

theorem seq_eq_valid_iff {function : Checked (α → β)} :
    function <*> checked = valid result ↔
      ∃ f value, function = valid f ∧ checked = valid value ∧ f value = result := by
  constructor
  · intro hResult
    cases function with
    | invalid violations => cases hResult
    | valid f =>
        cases checked with
        | invalid violations => cases hResult
        | valid value => exact ⟨f, value, rfl, rfl, Checked.valid.inj hResult⟩
  · rintro ⟨f, value, rfl, rfl, rfl⟩
    rfl

theorem map_eq_valid_iff {f : α → β} :
    f <$> checked = valid result ↔ ∃ value, checked = valid value ∧ f value = result := by
  constructor
  · intro hResult
    cases checked with
    | invalid violations => cases hResult
    | valid value => exact ⟨value, rfl, Checked.valid.inj hResult⟩
  · rintro ⟨value, rfl, rfl⟩
    rfl

theorem andThen_eq_valid_iff {next : α → Checked β} :
    checked.andThen next = valid result ↔
      ∃ value, checked = valid value ∧ next value = valid result := by
  cases checked <;> simp [andThen]

theorem under_eq_valid_iff {step : Step} {value : α} :
    checked.under step = valid value ↔ checked = valid value := by
  cases checked <;> simp [under]

end

/-! ## Entries -/

section

variable {α : Type} {names : List String} {owner value usual : Value} {check : Value → Checked α}
  {fallback result : α}

/-- A description has a value under one of some names. -/
def Tells (names : List String) (owner value : Value) : Prop :=
  ∃ name, entry? names owner = some (name, value)

/-- A description has a value under one of some names or leaves the usual one out. -/
def MayTell (names : List String) (owner value usual : Value) : Prop :=
  Tells names owner value ∨ entry? names owner = none ∧ value = usual

theorem required_eq_valid_iff (hTells : Tells names owner value) :
    required names check owner = valid result ↔ check value = valid result := by
  obtain ⟨name, hEntry⟩ := hTells
  simp only [required, hEntry, under_eq_valid_iff]

theorem optional_eq_valid_iff (hTells : MayTell names owner value usual)
    (hUsual : check usual = valid fallback) :
    optional names fallback check owner = valid result ↔ check value = valid result := by
  rcases hTells with ⟨name, hEntry⟩ | ⟨hAbsent, rfl⟩
  · simp only [optional, hEntry, under_eq_valid_iff]
  · simp only [optional, hAbsent, hUsual]

theorem required_eq_under {key : String} (hTells : Tells [key] owner value) :
    required [key] check owner = (check value).under (.key key) := by
  obtain ⟨name, hEntry⟩ := hTells
  obtain ⟨other, hMem, hFound⟩ := List.exists_of_findSome?_eq_some hEntry
  obtain ⟨found, -, hPair⟩ := Option.map_eq_some_iff.1 hFound
  obtain rfl : other = key := List.mem_singleton.1 hMem
  obtain ⟨rfl, rfl⟩ := Prod.mk.inj hPair
  rw [required, hEntry]

theorem nonemptyText_text (content : String) :
    nonemptyText (.text content) =
      if hContent : content = "" then broken (.textTooShort 1) (.text content)
      else valid ⟨content, hContent⟩ := by
  simp [nonemptyText, text, andThen]

theorem exists_mapping_of_tells (hTells : Tells names owner value) :
    ∃ entries, owner = .mapping entries := by
  obtain ⟨name, hEntry⟩ := hTells
  obtain ⟨other, -, hFound⟩ := List.exists_of_findSome?_eq_some hEntry
  cases owner with
  | mapping entries => exact ⟨entries, rfl⟩
  | _ => cases hFound

end

end Checked

/-! ## Fields -/

/-- What a description says about a field, each value of its own type.  A text whose length is
bounded has to be one of characters, as the name is; the other texts may be ill-formed. -/
structure FieldDraft where
  name : String
  sqlType : SqlType
  width : Int := 0
  columnName : Option Points := none
  id : Bool := false
  generatedId : Bool := false
  generatedIdSequence : Option Points := none
  allowGeneratedIdInsert : Bool := false
  nullable : Bool := true
  unique : Bool := false
  default : Option Points := none

def optionalText (content : Option Points) : Value :=
  content.elim .null .ofPoints

namespace FieldDraft

/-- The entries of a description.  All but the name and the type may be left out where they
have their usual values. -/
structure IsDescribedBy (draft : FieldDraft) (input : Value) : Prop where
  name : Tells ["name"] input (.text draft.name)
  sqlType : Tells ["type", "sql_type"] input (.text draft.sqlType.name)
  width : MayTell ["width"] input (.integer draft.width) (.integer 0)
  columnName : MayTell ["columnName", "column_name"] input (optionalText draft.columnName) .null
  id : MayTell ["id"] input (.boolean draft.id) (.boolean false)
  generatedId : MayTell ["generatedId", "generated_id"] input (.boolean draft.generatedId)
    (.boolean false)
  generatedIdSequence : MayTell ["generatedIdSequence", "generated_id_sequence"] input
    (optionalText draft.generatedIdSequence) .null
  allowGeneratedIdInsert : MayTell ["allowGeneratedIdInsert", "allow_generated_id_insert"] input
    (.boolean draft.allowGeneratedIdInsert) (.boolean false)
  nullable : MayTell ["nullable"] input (.boolean draft.nullable) (.boolean true)
  unique : MayTell ["unique"] input (.boolean draft.unique) (.boolean false)
  default : MayTell ["default"] input (optionalText draft.default) .null

/-- A draft that can be a field. -/
structure IsWellFormed (draft : FieldDraft) : Prop where
  name : draft.name ≠ ""
  width : 0 ≤ draft.width
  oneIdFlag :
    [draft.id, draft.generatedId, draft.generatedIdSequence.isSome].count true ≤ 1
  insertNeedsGeneratedId : draft.allowGeneratedIdInsert = true →
    draft.generatedId = true ∨ draft.generatedIdSequence ≠ none

def spec (draft : FieldDraft) (hName : draft.name ≠ "") : FieldSpec where
  name := draft.name
  sqlType := draft.sqlType
  width := draft.width.toNat
  columnName := draft.columnName
  id := draft.id
  generatedId := draft.generatedId
  generatedIdSequence := draft.generatedIdSequence
  allowGeneratedIdInsert := draft.allowGeneratedIdInsert
  nullable := draft.nullable
  unique := draft.unique
  default := draft.default
  name_ne_empty := hName

end FieldDraft

namespace Field

def draft (field : Field) : FieldDraft where
  name := field.name
  sqlType := field.sqlType
  width := field.width
  columnName := field.columnName
  id := field.id
  generatedId := field.generatedId
  generatedIdSequence := field.generatedIdSequence
  allowGeneratedIdInsert := field.allowGeneratedIdInsert
  nullable := field.nullable
  unique := field.unique
  default := field.default

theorem draft_eq_iff {field : Field} {draft : FieldDraft} (hName : draft.name ≠ "")
    (hWidth : 0 ≤ draft.width) : field.draft = draft ↔ field.toFieldSpec = draft.spec hName := by
  constructor
  · rintro rfl
    rfl
  · intro hSpec
    have hBack : ((draft.spec hName).width : Int) = draft.width := Int.toNat_of_nonneg hWidth
    rw [Field.draft, hSpec, hBack]
    rfl

theorem exists_draft_eq_iff {draft : FieldDraft} :
    (∃ field : Field, field.draft = draft) ↔ draft.IsWellFormed := by
  constructor
  · rintro ⟨field, rfl⟩
    have hInsert := field.insertNeedsGeneratedId
    refine ⟨field.name_ne_empty, Int.natCast_nonneg field.width, field.oneIdFlag,
      fun hAllowed => ?_⟩
    simpa [FieldSpec.isGeneratedId, Field.draft, Option.isSome_iff_ne_none] using hInsert hAllowed
  · intro hDraft
    refine ⟨⟨draft.spec hDraft.name, hDraft.oneIdFlag, fun hAllowed => ?_⟩,
      (draft_eq_iff hDraft.name hDraft.width).2 rfl⟩
    simpa [FieldSpec.isGeneratedId, FieldDraft.spec, Option.isSome_iff_ne_none] using
      hDraft.insertNeedsGeneratedId hAllowed

theorem orNull_optionalText (content : Option Points) :
    orNull text (optionalText content) = valid content := by
  cases content with
  | none => rfl
  | some content =>
      rw [optionalText, Option.elim_some]
      obtain ⟨chars, rfl, hValue⟩ | ⟨illFormed, rfl, hValue⟩ := Value.ofPoints_cases content <;>
        rw [hValue] <;> rfl

theorem checkType_name (sqlType : SqlType) :
    checkType (.text sqlType.name) = valid sqlType := by
  simp [checkType, text, SqlType.ofName?_name]

theorem checkDefault_optionalText (default : Option Points) :
    checkDefault (optionalText default) = valid default := by
  cases default with
  | none => rfl
  | some content => exact checkDefault_ofPoints content

theorem nonemptyText_eq_valid_iff {content : String} {result : { text : String // text ≠ "" }} :
    nonemptyText (.text content) = valid result ↔ content = result.val := by
  rw [nonemptyText_text]
  by_cases hContent : content = ""
  · simp [hContent, broken, Ne.symm result.property]
  · simp [hContent, Subtype.ext_iff]

theorem natural_eq_valid_iff {number : Int} {result : Nat} :
    natural (.integer number) = valid result ↔ number = result := by
  by_cases hNumber : number < 0
  · simp [natural, integer, andThen, hNumber, broken]
    omega
  · simp [natural, integer, andThen, hNumber]
    omega

variable {form : ObjectForm} {draft : FieldDraft} {input : Value}

theorem checkSpec_eq_valid_iff (hDraft : draft.IsDescribedBy input) {spec : FieldSpec} :
    checkSpec input = valid spec ↔
      0 ≤ draft.width ∧ ∃ hName : draft.name ≠ "", draft.spec hName = spec := by
  have hFlag {names : List String} {flag usual result : Bool}
      (hTells : MayTell names input (.boolean flag) (.boolean usual)) :
      optional names usual boolean input = valid result ↔ flag = result := by
    have hUsual : boolean (.boolean usual) = valid usual := rfl
    rw [optional_eq_valid_iff hTells hUsual, boolean, Checked.valid.injEq]
  have hText {names : List String} {content result : Option Points}
      (hTells : MayTell names input (optionalText content) .null) :
      optional names none (orNull text) input = valid result ↔ content = result := by
    have hUsual : orNull text .null = valid none := rfl
    rw [optional_eq_valid_iff hTells hUsual, orNull_optionalText, Checked.valid.injEq]
  have hWidth : natural (.integer 0) = valid 0 := rfl
  have hDefault : checkDefault .null = valid none := rfl
  simp only [checkSpec, seq_eq_valid_iff, map_eq_valid_iff, required_eq_valid_iff hDraft.name,
    required_eq_valid_iff hDraft.sqlType, optional_eq_valid_iff hDraft.width hWidth,
    hText hDraft.columnName, hFlag hDraft.id, hFlag hDraft.generatedId,
    hText hDraft.generatedIdSequence, hFlag hDraft.allowGeneratedIdInsert, hFlag hDraft.nullable,
    hFlag hDraft.unique, optional_eq_valid_iff hDraft.default hDefault, checkType_name,
    checkDefault_optionalText, nonemptyText_eq_valid_iff, natural_eq_valid_iff, Checked.valid.injEq]
  simp only [exists_eq_left', exists_exists_and_eq_and, exists_and_left]
  constructor
  · rintro ⟨_, ⟨⟨name, hName⟩, rfl, width, hNatural, rfl⟩, rfl⟩
    refine ⟨hNatural ▸ Int.natCast_nonneg width, hName, ?_⟩
    simp [FieldDraft.spec, hNatural]
  · rintro ⟨hNatural, hName, rfl⟩
    exact ⟨_, ⟨⟨draft.name, hName⟩, rfl, _, (Int.toNat_of_nonneg hNatural).symm, rfl⟩, rfl⟩

theorem check_eq_valid_iff (hDraft : draft.IsDescribedBy input) {field : Field} :
    check form input = valid field ↔ field.draft = draft := by
  obtain ⟨entries, rfl⟩ := exists_mapping_of_tells hDraft.name
  rw [check, object, andThen_eq_valid_iff]
  simp only [checkSpec_eq_valid_iff hDraft]
  constructor
  · rintro ⟨spec, ⟨hWidth, hName, rfl⟩, hField⟩
    cases hMade : ofSpec (draft.spec hName) with
    | error fault => simp [hMade, broken] at hField
    | ok made =>
        obtain rfl : made = field := by simpa [hMade] using hField
        exact (draft_eq_iff hName hWidth).2 (ofSpec_eq_ok_iff.1 hMade)
  · rintro rfl
    have hWidth : 0 ≤ field.draft.width := Int.natCast_nonneg field.width
    have hName : field.draft.name ≠ "" := field.name_ne_empty
    have hMade : ofSpec (field.draft.spec hName) = .ok field :=
      ofSpec_eq_ok_iff.2 ((draft_eq_iff hName hWidth).1 rfl)
    exact ⟨_, ⟨hWidth, hName, rfl⟩, by rw [hMade]⟩

end Field

/-! ## Tables -/

namespace Table

variable {form : ObjectForm} {input : Value} {name : String} {items : List Value}
  {fields : List Field}

def AreAccepted (form : ObjectForm) (items : List Value) (fields : List Field) : Prop :=
  List.Forall₂ (fun item field => Field.check form item = valid field) items fields

theorem itemsFrom_of_areAccepted (hItems : AreAccepted form items fields) (position : Nat) :
    itemsFrom (Field.check form) position items = valid fields := by
  induction hItems generalizing position with
  | nil => rfl
  | cons hItem _ ih => rw [itemsFrom, hItem, ih]; rfl

/-! ### Fields together -/

theorem ofFields_of_clash (name : { name : String // name ≠ "" })
    (fields : { fields : List Field // fields ≠ [] })
    (hClash : ¬(fields.val.map fun field => field.column).Nodup) :
    ∃ before field after, fields.val = before ++ field :: after ∧
      (before.map fun other => other.column).Nodup ∧
      field.column ∈ before.map (fun other => other.column) ∧
      ofFields name fields = .error (.repeatedColumn name.val field.column) := by
  unfold ofFields
  split
  · next column hRepeated =>
    obtain ⟨columns, others, hColumns, hNodup, -, hSeen⟩ := exists_of_firstRepeated? hRepeated
    obtain ⟨before, rest, hFields, rfl, hRest⟩ := List.map_eq_append_iff.1 hColumns
    obtain ⟨field, after, rfl, rfl, -⟩ := List.map_eq_cons_iff.1 hRest
    exact ⟨before, field, after, hFields, hNodup, by simpa using hSeen, rfl⟩
  · next hNone => exact absurd ((firstRepeated?_eq_none_iff [] _).1 hNone).1 hClash

theorem ofFields_of_nodup (name : { name : String // name ≠ "" })
    (fields : { fields : List Field // fields ≠ [] })
    (hColumns : (fields.val.map fun field => field.column).Nodup) :
    ((fields.val.filter fun field => field.isId).length ≤ 1 → ∃ table,
      ofFields name fields = .ok table ∧ table.name = name.val ∧ table.fields = fields.val) ∧
    (1 < (fields.val.filter fun field => field.isId).length → ofFields name fields =
      .error (.severalIds name.val
        ((fields.val.filter fun field => field.isId).map fun field => field.name))) := by
  have hNone : firstRepeated? [] (fields.val.map fun field => field.column) = none :=
    (firstRepeated?_eq_none_iff [] _).2 ⟨hColumns, by simp⟩
  unfold ofFields
  split
  · next hRepeated =>
    rw [hNone] at hRepeated
    cases hRepeated
  · extract_lets ids
    constructor
    · intro hIds
      rw [dif_pos hIds]
      exact ⟨_, rfl, rfl, rfl⟩
    · intro hIds
      rw [dif_neg (Nat.not_le.2 hIds)]

/-! ### Descriptions of tables -/

/-- A description with a name and a list of items for the fields. -/
structure IsTableDescription (input : Value) (name : String) (items : List Value) : Prop where
  name : Tells ["name"] input (.text name)
  fields : Tells ["fields"] input (.list items)

/-- What is found wrong with the name of a table. -/
def nameViolations (name : String) : List Violation :=
  if name = "" then [⟨.textTooShort 1, [.key "name"], .text name⟩] else []

/-- What is found wrong with the number of its fields. -/
def countViolations (items : List Value) : List Violation :=
  if items = [] then [⟨.listTooShort 1 0, [.key "fields"], .list items⟩] else []

/-- The verdict about a table whose fields are all accepted.  An empty name or list is found
first, then a column that repeats another one, then a second id. -/
structure IsJudged (form : ObjectForm) (input : Value) (name : String) (items : List Value)
    (fields : List Field) : Prop where
  accepted : (∃ table, check form input = valid table) ↔
    name ≠ "" ∧ fields ≠ [] ∧ (fields.map fun field => field.column).Nodup ∧
      (fields.filter fun field => field.isId).length ≤ 1
  table : ∀ table, check form input = valid table → table.name = name ∧ table.fields = fields
  empty : name = "" ∨ fields = [] →
    check form input = .invalid (nameViolations name ++ countViolations items)
  clash : name ≠ "" → ¬(fields.map fun field => field.column).Nodup →
    ∃ before field after, fields = before ++ field :: after ∧
      (before.map fun other => other.column).Nodup ∧
      field.column ∈ before.map (fun other => other.column) ∧
      check form input = .invalid [⟨.rejected
        (.ofString ("Table '" ++ name ++ "' has duplicate column '") ++ field.column ++ "'"),
          [], input⟩]
  severalIds : name ≠ "" → (fields.map fun field => field.column).Nodup →
    1 < (fields.filter fun field => field.isId).length →
      check form input = .invalid [⟨.rejected
        (.ofString ("Table '" ++ name ++ "' has more than one id field: " ++ ", ".intercalate
          ((fields.filter fun field => field.isId).map fun field => field.name))), [], input⟩]

theorem nonemptyListOf_of_areAccepted (hItems : AreAccepted form items fields) :
    nonemptyListOf (Field.check form) (.list items) =
      if hFields : fields = [] then broken (.listTooShort 1 0) (.list items)
      else valid ⟨fields, hFields⟩ := by
  rw [nonemptyListOf, listOf, itemsFrom_of_areAccepted hItems, andThen]
  cases fields <;> rfl

section

variable (hInput : IsTableDescription input name items) (hItems : AreAccepted form items fields)
include hInput hItems

theorem check_of_empty (hEmpty : name = "" ∨ fields = []) :
    check form input = .invalid (nameViolations name ++ countViolations items) := by
  obtain ⟨entries, rfl⟩ := exists_mapping_of_tells hInput.name
  have hNone : items = [] ↔ fields = [] := by
    rw [← List.length_eq_zero_iff, hItems.length_eq, List.length_eq_zero_iff]
  rw [check, object, required_eq_under hInput.name, required_eq_under hInput.fields,
    nonemptyText_text, nonemptyListOf_of_areAccepted hItems, nameViolations, countViolations]
  by_cases hName : name = "" <;> by_cases hFields : fields = []
  · rw [dif_pos hName, dif_pos hFields, if_pos hName, if_pos (hNone.2 hFields)]
    rfl
  · rw [dif_pos hName, dif_neg hFields, if_pos hName, if_neg (mt hNone.1 hFields)]
    rfl
  · rw [dif_neg hName, dif_pos hFields, if_neg hName, if_pos (hNone.2 hFields)]
    rfl
  · exact absurd hEmpty (by simp [hName, hFields])

theorem check_of_parts (hName : name ≠ "") (hFields : fields ≠ []) :
    check form input =
      match ofFields ⟨name, hName⟩ ⟨fields, hFields⟩ with
      | .ok table => valid table
      | .error fault => broken (.rejected fault.message) input := by
  obtain ⟨entries, rfl⟩ := exists_mapping_of_tells hInput.name
  rw [check, object, required_eq_under hInput.name, required_eq_under hInput.fields,
    nonemptyText_text, nonemptyListOf_of_areAccepted hItems, dif_neg hName, dif_neg hFields]
  rfl

theorem isJudged_of_empty (hEmpty : name = "" ∨ fields = []) :
    IsJudged form input name items fields := by
  have hCheck := check_of_empty hInput hItems hEmpty
  have hNoFields (hName : name ≠ "") : fields = [] := hEmpty.resolve_left hName
  constructor
  case accepted =>
    constructor
    · rintro ⟨table, hTable⟩
      simp [hCheck] at hTable
    · rintro ⟨hName, hFields, -⟩
      exact absurd (hNoFields hName) hFields
  case table => simp [hCheck]
  case empty => exact fun _ => hCheck
  case clash => exact fun hName hClash => absurd (by simp [hNoFields hName]) hClash
  case severalIds =>
    intro hName _ hIds
    simp [hNoFields hName] at hIds

theorem isJudged_of_clash (hName : name ≠ "") (hFields : fields ≠ [])
    (hClash : ¬(fields.map fun field => field.column).Nodup) :
    IsJudged form input name items fields := by
  have hCheck := check_of_parts hInput hItems hName hFields
  obtain ⟨before, field, after, hSplit, hBefore, hRepeated, hFault⟩ :=
    ofFields_of_clash ⟨name, hName⟩ ⟨fields, hFields⟩ hClash
  rw [hFault] at hCheck
  constructor
  case accepted => simp [hCheck, broken, hClash]
  case table => simp [hCheck, broken]
  case empty => simp [hName, hFields]
  case clash => exact fun _ _ => ⟨before, field, after, hSplit, hBefore, hRepeated, hCheck⟩
  case severalIds => exact fun _ hColumns => absurd hColumns hClash

theorem isJudged_of_nodup (hName : name ≠ "") (hFields : fields ≠ [])
    (hColumns : (fields.map fun field => field.column).Nodup) :
    IsJudged form input name items fields := by
  have hCheck := check_of_parts hInput hItems hName hFields
  obtain ⟨hFew, hMany⟩ := ofFields_of_nodup ⟨name, hName⟩ ⟨fields, hFields⟩ hColumns
  by_cases hIds : (fields.filter fun field => field.isId).length ≤ 1
  · obtain ⟨table, hTable, hParts⟩ := hFew hIds
    rw [hTable] at hCheck
    constructor
    case accepted => exact ⟨fun _ => ⟨hName, hFields, hColumns, hIds⟩, fun _ => ⟨table, hCheck⟩⟩
    case table =>
      intro other hOther
      rw [hCheck] at hOther
      cases hOther
      exact hParts
    case empty => simp [hName, hFields]
    case clash => exact fun _ hClash => absurd hColumns hClash
    case severalIds => exact fun _ _ hSeveral => absurd hIds (Nat.not_le.2 hSeveral)
  · have hSeveral := Nat.not_le.1 hIds
    rw [hMany hSeveral] at hCheck
    constructor
    case accepted => simp [hCheck, broken, hSeveral]
    case table => simp [hCheck, broken]
    case empty => simp [hName, hFields]
    case clash => exact fun _ hClash => absurd hColumns hClash
    case severalIds => exact fun _ _ _ => hCheck

theorem isJudged : IsJudged form input name items fields := by
  by_cases hEmpty : name = "" ∨ fields = []
  · exact isJudged_of_empty hInput hItems hEmpty
  · obtain ⟨hName, hFields⟩ := not_or.1 hEmpty
    by_cases hColumns : (fields.map fun field => field.column).Nodup
    · exact isJudged_of_nodup hInput hItems hName hFields hColumns
    · exact isJudged_of_clash hInput hItems hName hFields hColumns

end

theorem drafts_of_areAccepted {drafts : List FieldDraft}
    (hDrafts : List.Forall₂ FieldDraft.IsDescribedBy drafts items)
    (hItems : AreAccepted form items fields) : fields.map Field.draft = drafts := by
  induction hItems generalizing drafts with
  | nil => cases hDrafts; rfl
  | cons hItem _ ih =>
      cases hDrafts with
      | cons hDraft hRest =>
          rw [List.map_cons, ih hRest, (Field.check_eq_valid_iff hDraft).1 hItem]

/-- Two ids, of which the second has the column of the first. -/
def clashingDrafts : List FieldDraft :=
  [{ name := "a", sqlType := .int, id := true },
    { name := "b", sqlType := .long, columnName := some "a", generatedIdSequence := some "" }]

def clashingItems : List Value :=
  [.record [("name", .text "a"), ("type", .text "int"), ("id", .boolean true)],
    .record [("name", .text "b"), ("sql_type", .text "long"), ("columnName", .text "a"),
      ("generatedIdSequence", .text "")]]

def clashingInput : Value :=
  .record [("name", .text "t"), ("fields", .list clashingItems)]

theorem isDescribedBy_clashingItems :
    List.Forall₂ FieldDraft.IsDescribedBy clashingDrafts clashingItems := by
  have hAbsent {names : List String} {owner usual : Value} (hNone : entry? names owner = none) :
      MayTell names owner usual usual := .inr ⟨hNone, rfl⟩
  refine .cons ?first (.cons ?second .nil) <;> constructor
  case first.name | first.sqlType | second.name | second.sqlType => exact ⟨_, rfl⟩
  case first.id | second.columnName | second.generatedIdSequence => exact .inl ⟨_, rfl⟩
  all_goals exact hAbsent rfl

-- Columns that differ in halves of surrogate pairs only are different columns.
example : (check .record (.record [("name", .text "t"), ("fields", .list [
    .record [("name", .text "a"), ("type", .text "int"), ("columnName", .ofPoints ⟨[.half 0]⟩)],
    .record [("name", .text "b"), ("type", .text "int"),
      ("columnName", .ofPoints ⟨[.half 1]⟩)]])])).violations = [] := rfl

end Table

end SqlDialects
