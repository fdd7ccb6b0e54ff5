import SqlDialects.Json.Reader
import SqlDialects.Proofs.Number.Digits
import SqlDialects.Proofs.Yaml.Reach

/-!
# Values that are read from JSON

JSON describes few kinds of values, and a reader that limits the digits of integers reads only
integers that can be written again (`Json.isJson_read`).
-/

namespace SqlDialects

/-- A value that JSON describes and whose integers have texts. -/
inductive Value.IsJson : Value → Prop
  | null : IsJson .null
  | boolean (value : Bool) : IsJson (.boolean value)
  | integer {value : Int} (hValue : Number.isWritable value = true) : IsJson (.integer value)
  | real (value : Float) : IsJson (.real value)
  | text (content : String) : IsJson (.text content)
  | illFormed (content : Text.IllFormed) : IsJson (.illFormed content)
  | list {items : List Value} (hItems : ∀ item ∈ items, item.IsJson) : IsJson (.list items)
  | mapping {entries : List (Value × Value)} (hEntries : ∀ entry ∈ entries, entry.2.IsJson) :
      IsJson (.mapping entries)

theorem Value.isJson_ofPoints (points : Text.Points) : (ofPoints points).IsJson := by
  obtain ⟨content, -, hValue⟩ | ⟨content, -, hValue⟩ := ofPoints_cases points
  · exact hValue ▸ .text content
  · exact hValue ▸ .illFormed content

theorem Value.isJson_insertEntry (key : Text.Points) {value : Value}
    {entries : List (Value × Value)}
    (hValue : value.IsJson) (hEntries : ∀ entry ∈ entries, entry.2.IsJson) :
    ∀ entry ∈ insertEntry key value entries, entry.2.IsJson := by
  induction entries with
  | nil => simpa [insertEntry] using hValue
  | cons entry rest ih =>
      obtain ⟨hFirst, hOthers⟩ := List.forall_mem_cons.1 hEntries
      rw [insertEntry]
      split
      · exact List.forall_mem_cons.2 ⟨hValue, hOthers⟩
      · exact List.forall_mem_cons.2 ⟨hFirst, ih hOthers⟩

namespace Json

open Yaml (Yields)

variable {limits : Limits}

/-- Whatever has been read is a value of JSON. -/
abbrev YieldsJson (result : Except Fault (Value × Input)) : Prop :=
  Yields (fun read => read.1.IsJson) result

/-! ## Numbers -/

theorem wholeDigits_digits (text : List Char) :
    ∀ c ∈ (wholeDigits text).1, (Text.asciiDigit? c).isSome = true := by
  unfold wholeDigits
  split
  · intro c hMember
    rw [List.mem_singleton.1 hMember]
    decide
  · exact Number.spanDigits_digits text

theorem isWritable_digits {digits : List Char} {negative : Bool}
    (hDigits : ∀ c ∈ digits, (Text.asciiDigit? c).isSome = true)
    (hLength : digits.length ≤ Number.maxDigits) :
    Number.isWritable
        (if negative then -(Number.digitsValue digits : Int) else Number.digitsValue digits) =
      true := by
  refine Number.isWritable_of_natAbs_lt digits.length ?_ hLength
  cases negative <;> simpa using Number.digitsValue_lt hDigits

theorem yieldsJson_readNumber (hLimits : limits.digits ≤ Number.maxDigits) (input : Input) :
    YieldsJson (readNumber limits input) := by
  unfold readNumber
  extract_lets numeral
  split
  next negative text _ =>
    have hDigits := wholeDigits_digits text
    split
    next whole afterWhole hWhole =>
      rw [hWhole] at hDigits
      split
      · exact .error _
      · split
        next fraction afterFraction =>
          extract_lets wholeLength length
          split
          · exact .ok (.real _)
          · split
            · split
              · exact .error _
              · next hShort =>
                exact .ok (.integer (isWritable_digits hDigits
                  (Nat.le_trans (Nat.le_of_not_lt hShort) hLimits)))
            · exact .ok (.real _)

/-! ## Values -/

theorem isJson_words : ∀ word ∈ words, word.2.IsJson := by
  simp only [words, List.mem_cons, List.not_mem_nil, or_false, forall_eq_or_imp, forall_eq]
  exact ⟨.null, .boolean _, .boolean _, .real _, .real _, .real _⟩

/-- The readers give values of JSON with a given fuel, one field for each of them. -/
structure ReadsJson (limits : Limits) (fuel : Nat) : Prop where
  value : ∀ depth input, YieldsJson (readValue limits fuel depth input)
  items : ∀ depth input {read}, (∀ item ∈ read, item.IsJson) →
    YieldsJson (readItems limits fuel depth read input)
  entries : ∀ depth input {read : List (Value × Value)}, (∀ entry ∈ read, entry.2.IsJson) →
    YieldsJson (readEntries limits fuel depth read input)

namespace ReadsJson

variable {fuel : Nat}

theorem value_succ (hReads : ReadsJson limits fuel) (hLimits : limits.digits ≤ Number.maxDigits)
    (depth : Nat) (input : Input) : YieldsJson (readValue limits (fuel + 1) depth input) := by
  rw [readValue]
  split
  · exact .error _
  · exact .map fun read _ => Value.isJson_ofPoints read.1
  · refine .ite (fun _ => .error _) fun _ => ?_
    extract_lets inside
    split
    · exact .ok (.mapping (by simp))
    · exact hReads.entries _ _ (by simp)
  · refine .ite (fun _ => .error _) fun _ => ?_
    extract_lets inside
    split
    · exact .ok (.list (by simp))
    · exact hReads.items _ _ (by simp)
  · split
    · next word value hWord => exact .ok (isJson_words _ (List.mem_of_find?_eq_some hWord))
    · exact yieldsJson_readNumber hLimits input

theorem items_succ (hReads : ReadsJson limits fuel) (depth : Nat) (input : Input)
    {read : List Value} (hRead : ∀ item ∈ read, item.IsJson) :
    YieldsJson (readItems limits (fuel + 1) depth read input) := by
  rw [readItems]
  split
  · exact .error _
  · next item after hItem =>
    have hItems : ∀ other ∈ item :: read, other.IsJson :=
      List.forall_mem_cons.2 ⟨hReads.value depth input _ hItem, hRead⟩
    extract_lets after
    split
    · exact .ok (.list fun other hOther => hItems other (List.mem_reverse.1 hOther))
    · exact hReads.items _ _ hItems
    · exact .error _

theorem entries_succ (hReads : ReadsJson limits fuel) (depth : Nat) (input : Input)
    {read : List (Value × Value)} (hRead : ∀ entry ∈ read, entry.2.IsJson) :
    YieldsJson (readEntries limits (fuel + 1) depth read input) := by
  rw [readEntries]
  split
  · split
    · exact .error _
    · next key _ _ =>
      extract_lets after
      split
      · split
        · exact .error _
        · next value after hValue =>
          have hEntries := Value.isJson_insertEntry key (hReads.value _ _ _ hValue) hRead
          extract_lets read after
          split
          · exact .ok (.mapping hEntries)
          · exact hReads.entries _ _ hEntries
          · exact .error _
      · exact .error _
  · exact .error _

end ReadsJson

theorem readsJson (hLimits : limits.digits ≤ Number.maxDigits) (fuel : Nat) :
    ReadsJson limits fuel := by
  -- The readers call each other with less fuel, so they are proved together.
  induction fuel with
  | zero =>
      constructor
      all_goals intros; exact .error _
  | succ fuel ih =>
      constructor
      case value => exact ih.value_succ hLimits
      case items => exact fun depth input _ => ih.items_succ depth input
      case entries => exact fun depth input _ => ih.entries_succ depth input

theorem isJson_read (hLimits : limits.digits ≤ Number.maxDigits) {text : Text.Points}
    {value : Value} (hRead : read limits text = .ok value) : value.IsJson := by
  unfold read at hRead
  split at hRead
  · cases hRead
  · next found after hFound =>
    extract_lets after at hRead
    split at hRead
    · obtain rfl := Except.ok.inj hRead
      exact (readsJson hLimits _).value _ _ _ hFound
    · cases hRead

end Json

end SqlDialects
