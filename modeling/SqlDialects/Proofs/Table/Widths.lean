import SqlDialects.Proofs.Json.Values
import SqlDialects.Table.Validation

/-!
# Widths that are read from JSON

A width is an integer of a value of JSON or a numeral that is not too long, so it can be
written in a column type (`Table.hasWritableWidths_check`).
-/

namespace SqlDialects

namespace Checked

variable {α β : Type}

/-- Whatever passes a check has a property. -/
def Ensures (property : α → Prop) (checked : Checked α) : Prop :=
  ∀ value, checked = valid value → property value

section

variable {property : α → Prop}

theorem Ensures.valid {value : α} (hValue : property value) : Ensures property (valid value) := by
  rintro other hOther
  obtain rfl : value = other := by injection hOther
  exact hValue

theorem Ensures.broken (rule : Rule) (input : Value) :
    Ensures property (broken rule input) := by
  intro value hValue
  cases hValue

theorem Ensures.under {checked : Checked α} {step : Step} (hChecked : Ensures property checked) :
    Ensures property (checked.under step) := by
  cases checked with
  | valid value => exact .valid (hChecked value rfl)
  | invalid violations =>
      intro value hValue
      cases hValue

theorem Ensures.andThen {checked : Checked β} (first : β → Prop) {next : β → Checked α}
    (hChecked : Ensures first checked)
    (hNext : ∀ value, first value → Ensures property (next value)) :
    Ensures property (checked.andThen next) := by
  cases checked with
  | valid value => exact hNext value (hChecked value rfl)
  | invalid violations =>
      intro value hValue
      cases hValue

theorem Ensures.seq (first : β → Prop) {function : Checked (β → α)} {argument : Checked β}
    (hFunction : Ensures (fun f => ∀ value, first value → property (f value)) function)
    (hArgument : Ensures first argument) : Ensures property (function <*> argument) := by
  intro value hValue
  cases function with
  | invalid violations => cases hValue
  | valid f =>
      cases argument with
      | invalid violations => cases hValue
      | valid inner =>
          obtain rfl : f inner = value := by injection hValue
          exact hFunction f rfl inner (hArgument inner rfl)

theorem Ensures.true (checked : Checked α) : Ensures (fun _ => True) checked :=
  fun _ _ => trivial

theorem Ensures.seqAny {function : Checked (β → α)} {argument : Checked β}
    (hFunction : Ensures (fun f => ∀ value, property (f value)) function) :
    Ensures property (function <*> argument) :=
  .seq _ (fun f hValid value _ => hFunction f hValid value) (.true argument)

theorem Ensures.map {f : β → α} {checked : Checked β}
    (hChecked : Ensures (fun value => property (f value)) checked) :
    Ensures property (f <$> checked) := by
  intro value hValue
  cases checked with
  | invalid violations => cases hValue
  | valid inner =>
      obtain rfl : f inner = value := by injection hValue
      exact hChecked inner rfl

/-! ## Entries and items -/

theorem isJson_of_entry {names : List String} {owner value : Value} {name : String}
    (hOwner : owner.IsJson) (hEntry : entry? names owner = some (name, value)) : value.IsJson := by
  obtain ⟨found, -, hFound⟩ := List.exists_of_findSome?_eq_some hEntry
  obtain ⟨inner, hInner, hPair⟩ := Option.map_eq_some_iff.1 hFound
  obtain ⟨-, rfl⟩ := Prod.mk.inj hPair
  cases hOwner with
  | mapping hEntries =>
      obtain ⟨entry, hMember, rfl⟩ := Option.map_eq_some_iff.1 hInner
      exact hEntries entry (List.mem_of_find?_eq_some hMember)
  | _ => cases hInner

theorem ensures_required {names : List String} {check : Value → Checked α} {owner : Value}
    (hOwner : owner.IsJson)
    (hCheck : ∀ input : Value, input.IsJson → Ensures property (check input)) :
    Ensures property (required names check owner) := by
  unfold required
  split
  · next name value hEntry => exact (hCheck value (isJson_of_entry hOwner hEntry)).under
  · exact (Ensures.broken _ _).under

theorem ensures_optional {names : List String} {fallback : α} {check : Value → Checked α}
    {owner : Value} (hOwner : owner.IsJson) (hFallback : property fallback)
    (hCheck : ∀ input : Value, input.IsJson → Ensures property (check input)) :
    Ensures property (optional names fallback check owner) := by
  unfold optional
  split
  · next name value hEntry => exact (hCheck value (isJson_of_entry hOwner hEntry)).under
  · exact .valid hFallback

theorem ensures_object {form : ObjectForm} {kind : String} {check : Value → Checked α}
    {input : Value} (hCheck : Ensures property (check input)) :
    Ensures property (object form kind check input) := by
  unfold object
  split
  · exact hCheck
  · exact .broken _ _

theorem ensures_itemsFrom {check : Value → Checked α} {items : List Value}
    (hCheck : ∀ item ∈ items, Ensures property (check item)) (position : Nat) :
    Ensures (fun values => ∀ value ∈ values, property value) (itemsFrom check position items) := by
  induction items generalizing position with
  | nil => exact .valid (by simp)
  | cons item items ih =>
      obtain ⟨hItem, hItems⟩ := List.forall_mem_cons.1 hCheck
      refine .seq (fun values => ∀ value ∈ values, property value) (.map ?_)
        (ih hItems (position + 1))
      intro value hValue values hValues
      exact List.forall_mem_cons.2 ⟨hItem.under value hValue, hValues⟩

theorem ensures_nonemptyListOf {check : Value → Checked α} {input : Value} (hInput : input.IsJson)
    (hCheck : ∀ item : Value, item.IsJson → Ensures property (check item)) :
    Ensures (fun values => ∀ value ∈ values.val, property value) (nonemptyListOf check input) := by
  have hItems : Ensures (fun values => ∀ value ∈ values, property value) (listOf check input) := by
    unfold listOf
    split
    · cases hInput with
      | list hItems => exact ensures_itemsFrom (fun item hItem => hCheck item (hItems item hItem)) 0
    · exact .broken _ _
  refine hItems.andThen _ fun values hValues => ?_
  split
  · exact .broken _ _
  · exact .valid hValues

end

/-! ## Integers -/

theorem length_le_utf8ByteSize (text : List Char) :
    text.length ≤ (String.ofList text).utf8ByteSize := by
  induction text with
  | nil => simp
  | cons c text ih =>
      have hSize := c.utf8Size_pos
      rw [String.ofList_cons, String.utf8ByteSize_append, String.utf8ByteSize_singleton,
        List.length_cons]
      omega

theorem length_dropLeadingZeros? (text : List Char) :
    ∀ rest ∈ dropLeadingZeros? text, rest.length ≤ text.length := by
  intro rest hRest
  unfold dropLeadingZeros? at hRest
  split at hRest
  · next tail =>
    have hTail := (List.dropWhile_sublist (l := tail) fun c => c == '0' || c == '_').length_le
    split at hRest
    · cases hLast : tail.getLast? <;> rw [hLast] at hRest <;> cases hRest <;> simp
    · next digits hDigits =>
      rw [hDigits] at hTail
      cases hRest
      simpa using hTail
    · next c digits _ hDigits =>
      rw [hDigits] at hTail
      split at hRest
      · cases hRest
        exact Nat.le_succ_of_le hTail
      · cases hRest
  · split at hRest
    · cases hRest
      exact Nat.le_refl _
    · cases hRest
  · cases hRest

theorem length_dropZeroFraction (text : List Char) :
    (dropZeroFraction text).length ≤ text.length := by
  unfold dropZeroFraction
  split
  · split
    · exact (List.takeWhile_sublist _).length_le
    · exact Nat.le_refl _
  · exact Nat.le_refl _

theorem wholeDigits?_lt {digits : List Char} {value : Nat}
    (hValue : wholeDigits? digits = some value) : value < Nat.pow 10 digits.length := by
  unfold wholeDigits? at hValue
  split at hValue
  · next found count hFound =>
    obtain rfl := Option.some.inj hValue
    exact Number.digits?_lt _ hFound
  · cases hValue

theorem isWritable_wholeNumber? {numeral : List Char} {value : Int}
    (hLength : numeral.length ≤ Number.maxDigits) (hValue : wholeNumber? numeral = some value) :
    Number.isWritable value = true := by
  unfold wholeNumber? at hValue
  extract_lets unsigned at hValue
  obtain ⟨rest, hRest, hNumber⟩ := Option.bind_eq_some_iff.1 hValue
  obtain ⟨plain, hPlain, hDropped⟩ := Option.bind_eq_some_iff.1 hRest
  have hUnsigned : plain.length ≤ numeral.length := by
    simp only [unsigned] at hPlain
    split at hPlain
    · cases hPlain
    · cases hPlain
      simp
    · cases hPlain
      exact Nat.le_refl _
  have hKept : (dropZeroFraction rest).length ≤ Number.maxDigits :=
    Nat.le_trans (length_dropZeroFraction rest) (Nat.le_trans
      (length_dropLeadingZeros? plain rest hDropped) (Nat.le_trans hUnsigned hLength))
  split at hNumber
  · cases hNumber
    exact Number.isWritable_of_natAbs_lt 1 (by decide) (by decide)
  · cases hNumber
  · next digits _ _ hDigits =>
    rw [hDigits] at hKept
    obtain ⟨number, hSized, rfl⟩ := Option.map_eq_some_iff.1 hNumber
    obtain ⟨size, hSize, hCast⟩ := Option.bind_eq_some_iff.1 hSized
    obtain rfl : (size : Int) = number := by injection hCast
    refine Number.isWritable_of_natAbs_lt digits.length ?_
      (Nat.le_of_succ_le hKept)
    simpa using wholeDigits?_lt hSize
  · obtain ⟨size, hSize, rfl⟩ := Option.map_eq_some_iff.1 hNumber
    exact Number.isWritable_of_natAbs_lt _ (wholeDigits?_lt hSize) hKept

theorem ensures_numeral (content : String) (input : Value) :
    Ensures (fun value => Number.isWritable value = true) (numeral content input) := by
  unfold numeral
  extract_lets trimmed
  split
  · exact .broken _ _
  · next hShort =>
    split
    · next value hValue =>
      exact .valid (isWritable_wholeNumber? (Nat.le_trans (length_le_utf8ByteSize trimmed)
        (Nat.le_of_not_lt hShort)) hValue)
    · exact .broken _ _

theorem ensures_integer {input : Value} (hInput : input.IsJson) :
    Ensures (fun value => Number.isWritable value = true) (integer input) := by
  cases hInput with
  | null => exact .broken _ _
  | boolean value =>
      refine .valid (Number.isWritable_of_natAbs_lt 1 ?_ (by decide))
      cases value <;> decide
  | integer hValue => exact .valid hValue
  | real value =>
      unfold integer
      dsimp only
      split
      · exact .broken _ _
      · split
        · exact .broken _ _
        · split
          · next hBound =>
            refine .valid (Number.isWritable_of_natAbs_lt 19 ?_ (by decide))
            unfold wholeRealBound at hBound
            rw [Nat.pow_eq]
            omega
          · exact .broken _ _
  | text content => exact ensures_numeral content _
  | illFormed content => exact .broken _ _
  | list => exact .broken _ _
  | mapping => exact .broken _ _

theorem ensures_natural {input : Value} (hInput : input.IsJson) :
    Ensures (fun value : Nat => Number.isWritable value = true) (natural input) := by
  refine (ensures_integer hInput).andThen _ fun value hValue => ?_
  split
  · exact .broken _ _
  · next hSign =>
    have hSame : (value.toNat : Int) = value := Int.toNat_of_nonneg (Int.not_lt.1 hSign)
    refine .valid ?_
    rw [hSame]
    exact hValue

end Checked

open Checked

/-! ## Fields and tables -/

theorem Field.ensures_checkSpec {input : Value} (hInput : input.IsJson) :
    Ensures (fun spec => Number.isWritable spec.width = true) (checkSpec input) := by
  unfold checkSpec
  -- Eight entries follow the width, two go before it.
  iterate 8 refine .seqAny ?_
  have hNone : Number.isWritable (0 : Nat) = true :=
    Number.isWritable_of_natAbs_lt 1 (by decide) (by decide)
  refine .seq (fun width : Nat => Number.isWritable width = true) ?_
    (ensures_optional hInput hNone fun _ hWidth => ensures_natural hWidth)
  refine .seqAny (.map fun name _ sqlType width hWidth => ?_)
  intros
  cases name
  exact hWidth

theorem Field.ensures_check (form : ObjectForm) {input : Value} (hInput : input.IsJson) :
    Ensures (fun field => Number.isWritable field.width = true) (check form input) := by
  refine ensures_object ((ensures_checkSpec hInput).andThen _ fun spec hSpec => ?_)
  split
  · next field hField =>
    refine .valid ?_
    unfold ofSpec at hField
    split at hField
    · split at hField
      · cases hField
        exact hSpec
      · cases hField
    · cases hField
  · exact .broken _ _

namespace Table

/-- All widths can be written. -/
def HasWritableWidths (table : Table) : Prop :=
  ∀ field ∈ table.fields, Number.isWritable field.width = true

theorem fields_of_ofFields {name : { name : String // name ≠ "" }}
    {fields : { fields : List Field // fields ≠ [] }} {table : Table}
    (hTable : ofFields name fields = .ok table) : table.fields = fields.val := by
  unfold ofFields at hTable
  split at hTable
  · cases hTable
  · extract_lets ids at hTable
    split at hTable
    · cases hTable
      rfl
    · cases hTable

theorem hasWritableWidths_check (form : ObjectForm) {input : Value} (hInput : input.IsJson) :
    Ensures HasWritableWidths (check form input) := by
  refine ensures_object (Ensures.andThen (fun parts =>
    ∀ field ∈ parts.2.val, Number.isWritable field.width = true) ?_ ?_)
  · refine .seq (fun fields => ∀ field ∈ fields.val, Number.isWritable field.width = true)
      (.map fun name _ fields hFields => hFields) ?_
    exact ensures_required hInput fun items hItems =>
      ensures_nonemptyListOf hItems fun item hItem => Field.ensures_check form hItem
  · rintro ⟨name, fields⟩ hFields
    dsimp only
    split
    · next table hTable =>
      refine .valid ?_
      rwa [HasWritableWidths, fields_of_ofFields hTable]
    · exact .broken _ _

end Table

end SqlDialects
