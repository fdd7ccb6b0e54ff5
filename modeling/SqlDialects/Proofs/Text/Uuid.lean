import Mathlib.Data.List.TakeWhile
import SqlDialects.Uuid

/-!
# Identifiers as text

The text of an identifier is read back as the identifier.  It holds hexadecimal digits and
hyphens only, so taking words and braces away changes nothing, taking the hyphens away
leaves the 32 digits, and these are the numeral of the number.
-/

namespace SqlDialects

namespace Number

/-! ## Hexadecimal numerals -/

/-- The digits that a hexadecimal numeral is written with. -/
def IsHexDigit (c : Char) : Prop :=
  c ∈ "0123456789abcdef".toList

instance (c : Char) : Decidable (IsHexDigit c) :=
  inferInstanceAs (Decidable (c ∈ "0123456789abcdef".toList))

/-- The digits that a hexadecimal numeral is read with. -/
def IsAnyCaseDigit (c : Char) : Prop :=
  IsHexDigit c ∨ c ∈ "ABCDEF".toList

/-- No such digit is part of anything else that a reader of numerals looks for. -/
structure IsDigitOnly (c : Char) : Prop where
  value : (hexDigit? c).isSome = true
  lower : hexDigit? c.toLower = hexDigit? c
  plain : Text.plainNumeral c = c
  notBlank : Text.isBlank c = false ∧ Text.isAsciiBlank c = false
  notSign : c ≠ '-' ∧ c ≠ '+'
  notMark : c.toLower ≠ 'x'
  notBrace : c ≠ '\x7b' ∧ c ≠ '\x7d'
  notWord : c ≠ 'u'

theorem IsAnyCaseDigit.isDigitOnly {c : Char} (hDigit : IsAnyCaseDigit c) : IsDigitOnly c := by
  have hAll : ("0123456789abcdef".toList ++ "ABCDEF".toList).all (fun c =>
      (hexDigit? c).isSome && hexDigit? c.toLower == hexDigit? c && Text.plainNumeral c == c &&
        (Text.isBlank c == false && Text.isAsciiBlank c == false) && (c != '-' && c != '+') &&
          c.toLower != 'x' && (c != '\x7b' && c != '\x7d') && c != 'u') = true := by
    decide
  have hFacts := List.all_eq_true.1 hAll c (List.mem_append.2 hDigit)
  simp only [Bool.and_eq_true, beq_iff_eq, bne_iff_ne, ne_eq] at hFacts
  obtain ⟨⟨⟨⟨⟨⟨⟨hValue, hLower⟩, hPlain⟩, hBlank⟩, hSign⟩, hMark⟩, hBrace⟩, hWord⟩ := hFacts
  exact ⟨hValue, hLower, hPlain, hBlank, hSign, hMark, hBrace, hWord⟩

theorem IsHexDigit.isDigitOnly {c : Char} (hDigit : IsHexDigit c) : IsDigitOnly c :=
  IsAnyCaseDigit.isDigitOnly (.inl hDigit)

theorem isHexDigit_digitChar {digit : Nat} (hDigit : digit < 16) :
    IsHexDigit (Nat.digitChar digit) := by
  have hAll : ∀ digit : Fin 16, IsHexDigit (Nat.digitChar digit) := by decide
  exact hAll ⟨digit, hDigit⟩

theorem hexDigit?_digitChar {digit : Nat} (hDigit : digit < 16) :
    hexDigit? (Nat.digitChar digit) = some digit := by
  have hAll : ∀ digit : Fin 16, hexDigit? (Nat.digitChar digit) = some digit.val := by decide
  exact hAll ⟨digit, hDigit⟩

theorem isHexDigit_of_mem_toDigits {number : Nat} {c : Char} (hMem : c ∈ Nat.toDigits 16 number) :
    IsHexDigit c := by
  induction number using Nat.strongRecOn generalizing c with
  | ind number ih =>
      by_cases hSmall : number < 16
      · rw [Nat.toDigits_of_lt_base hSmall, List.mem_singleton] at hMem
        exact hMem ▸ isHexDigit_digitChar hSmall
      · rw [Nat.toDigits_of_base_le (by omega) (Nat.le_of_not_lt hSmall), List.mem_append,
          List.mem_singleton] at hMem
        rcases hMem with hFront | rfl
        · exact ih (number / 16) (by omega) hFront
        · exact isHexDigit_digitChar (Nat.mod_lt _ (by omega))

theorem isHexDigit_of_mem_hexDigits {width number : Nat} {c : Char}
    (hMem : c ∈ Text.hexDigits width number) : IsHexDigit c := by
  rcases List.mem_append.1 hMem with hZero | hDigit
  · rw [List.eq_of_mem_replicate hZero]
    decide
  · exact isHexDigit_of_mem_toDigits hDigit

/-- The number that digits stand for after those that have given `value`. -/
def hexValue (value : Nat) (digits : List Char) : Nat :=
  digits.foldl (fun value c => value * 16 + (hexDigit? c).getD 0) value

theorem hexValue_append (value : Nat) (first second : List Char) :
    hexValue value (first ++ second) = hexValue (hexValue value first) second := by
  simp [hexValue]

theorem hexValue_toDigits (number : Nat) : hexValue 0 (Nat.toDigits 16 number) = number := by
  induction number using Nat.strongRecOn with
  | ind number ih =>
      by_cases hSmall : number < 16
      · simp [Nat.toDigits_of_lt_base hSmall, hexValue, hexDigit?_digitChar hSmall]
      · have hLast : hexDigit? (Nat.digitChar (number % 16)) = some (number % 16) :=
          hexDigit?_digitChar (Nat.mod_lt _ (by omega))
        rw [Nat.toDigits_of_base_le (by omega) (Nat.le_of_not_lt hSmall), hexValue_append,
          ih (number / 16) (by omega)]
        simp only [hexValue, List.foldl_cons, List.foldl_nil, hLast, Option.getD_some]
        omega

theorem hexValue_hexDigits (width number : Nat) :
    hexValue 0 (Text.hexDigits width number) = number := by
  have hZeros (count : Nat) : hexValue 0 (List.replicate count '0') = 0 := by
    induction count with
    | zero => rfl
    | succ count ih => exact ih
  rw [Text.hexDigits, hexValue_append, hZeros, hexValue_toDigits]

theorem digitsFrom_cons {base : Base} {c : Char} {digit : Nat} (hDigit : base.digit? c = some digit)
    (value count : Nat) (rest : List Char) :
    digitsFrom base value count (c :: rest) =
      digitsFrom base (value * base.size + digit) (count + 1) rest := by
  have hUnderscore : c ≠ '_' := by
    rintro rfl
    have hNone : base.digit? '_' = none := by cases base <;> rfl
    cases hNone.symm.trans hDigit
  rw [digitsFrom, hDigit] <;> simp [hUnderscore]

theorem digitsFrom_sixteen {digits : List Char} (hDigits : ∀ c ∈ digits, IsDigitOnly c)
    (value count : Nat) :
    digitsFrom .sixteen value count digits =
      some (hexValue value digits, count + digits.length, []) := by
  induction digits generalizing value count with
  | nil => rfl
  | cons c digits ih =>
      obtain ⟨digit, hDigit⟩ :=
        Option.isSome_iff_exists.1 (hDigits c (by simp)).value
      have hSixteen : Base.digit? .sixteen c = some digit := hDigit
      have hOthers := ih fun other hOther => hDigits other (by simp [hOther])
      rw [digitsFrom_cons hSixteen, hOthers]
      simp [hexValue, hDigit, Base.size, Nat.add_comm, Nat.add_left_comm]

theorem dropBaseMark_sixteen {digits : List Char} (hDigits : ∀ c ∈ digits, IsDigitOnly c) :
    dropBaseMark .sixteen digits = digits := by
  unfold dropBaseMark
  split
  · next mark rest =>
    have hMark : mark.toLower ≠ 'x' := (hDigits mark (by simp)).notMark
    have hOther : Base.mark? .sixteen ≠ some mark.toLower := by
      simpa [Base.mark?] using Ne.symm hMark
    rw [if_neg hOther]
  · rfl

theorem readInteger_sixteen {digits : List Char} (hDigits : ∀ c ∈ digits, IsDigitOnly c)
    (hNonempty : digits ≠ []) :
    readInteger .sixteen (String.ofList digits) = .ok (hexValue 0 digits : Nat) := by
  obtain ⟨c, rest, rfl⟩ := List.exists_cons_of_ne_nil hNonempty
  have hFirst := hDigits c (by simp)
  have hPlain : (c :: rest).map Text.plainNumeral = c :: rest := by
    rw [List.map_congr_left fun other hOther => (hDigits other hOther).plain]
    simp
  have hTrimmed : Text.trimStartBy Text.isAsciiBlank (c :: rest) = c :: rest := by
    simp [Text.trimStartBy, hFirst.notBlank.2]
  have hUnsigned : splitSign (c :: rest) = (false, c :: rest) := by
    unfold splitSign
    split <;> simp_all [hFirst.notSign]
  obtain ⟨digit, hDigit⟩ := Option.isSome_iff_exists.1 hFirst.value
  have hRead : digits? .sixteen (c :: rest) =
      some (hexValue 0 (c :: rest), 1 + rest.length, []) := by
    have hSixteen : Base.digit? .sixteen c = some digit := hDigit
    rw [digits?, hSixteen]
    simp only
    rw [digitsFrom_sixteen fun other hOther => hDigits other (by simp [hOther])]
    simp [hexValue, hDigit]
  rw [readInteger, String.toList_ofList, hPlain, readAscii, hTrimmed, hUnsigned]
  simp only [dropBaseMark_sixteen hDigits, hRead]
  simp

end Number

namespace Uuid

open Number

/-! ## The text of an identifier -/

theorem length_hexDigits (uuid : Uuid) : uuid.hexDigits.length = 32 := by
  have hSmall : uuid.number < 16 ^ 32 := uuid.inRange
  have hLength : (Nat.toDigits 16 uuid.number).length ≤ 32 :=
    (Nat.length_toDigits_le_iff (by omega) (by omega)).2 hSmall
  simp only [hexDigits, Text.hexDigits, List.length_append, List.length_replicate]
  omega

theorem filter_toChars (uuid : Uuid) : uuid.toChars.filter (· != '-') = uuid.hexDigits := by
  have hDigits : ∀ c ∈ uuid.hexDigits, (c != '-') = true := by
    intro c hMem
    simpa using (isHexDigit_of_mem_hexDigits hMem).isDigitOnly.notSign.1
  unfold toChars
  generalize uuid.hexDigits = digits at hDigits ⊢
  have hKept {part : List Char} (hPart : part ⊆ digits) : part.filter (· != '-') = part :=
    List.filter_eq_self.2 fun c hMem => hDigits c (hPart hMem)
  have hGroup (start count : Nat) :
      ((digits.drop start).take count).filter (· != '-') = (digits.drop start).take count :=
    hKept fun c hMem => List.mem_of_mem_drop (List.mem_of_mem_take hMem)
  have hJoin (start count : Nat) :
      (digits.drop start).take count ++ digits.drop (start + count) = digits.drop start := by
    rw [← List.drop_drop, List.take_append_drop]
  simp only [List.filter_append, List.filter_cons, bne_self_eq_false, Bool.false_eq_true, if_false,
    hGroup, hKept (List.take_subset 8 digits), hKept (List.drop_subset 20 digits),
    List.append_assoc]
  rw [hJoin 16 4, hJoin 12 4, hJoin 8 4, List.take_append_drop]

theorem mem_toChars {uuid : Uuid} {c : Char} (hMem : c ∈ uuid.toChars) :
    IsHexDigit c ∨ c = '-' := by
  by_cases hHyphen : c = '-'
  · exact .inr hHyphen
  · have hKept : c ∈ uuid.toChars.filter (· != '-') := List.mem_filter.2 ⟨hMem, by simpa⟩
    rw [filter_toChars] at hKept
    exact .inl (isHexDigit_of_mem_hexDigits hKept)

/-! ## Reading it back -/

theorem removeWord_of_not_mem {first : Char} {word text : List Char} (hText : first ∉ text)
    (fuel : Nat) : removeWord (first :: word) fuel text = text := by
  induction fuel generalizing text with
  | zero => cases text <;> rfl
  | succ fuel ih =>
      cases text with
      | nil => rfl
      | cons c rest =>
          rw [List.mem_cons, not_or] at hText
          have hElsewhere : (first :: word).isPrefixOf (c :: rest) = false := by
            simp [List.isPrefixOf, hText.1]
          simp [removeWord, hElsewhere, ih hText.2]

theorem payload_toChars (uuid : Uuid) : payload uuid.toChars = uuid.hexDigits := by
  have hNoWord : 'u' ∉ uuid.toChars := by
    intro hMem
    rcases mem_toChars hMem with hDigit | hHyphen
    · exact hDigit.isDigitOnly.notWord rfl
    · exact absurd hHyphen (by decide)
  have hNoBrace : ∀ c ∈ uuid.toChars, (c == '\x7b' || c == '\x7d') = false := by
    intro c hMem
    rcases mem_toChars hMem with hDigit | rfl
    · simpa using hDigit.isDigitOnly.notBrace
    · decide
  have hFirst : withoutWord "urn:".toList uuid.toChars = uuid.toChars :=
    removeWord_of_not_mem hNoWord _
  have hSecond : withoutWord "uuid:".toList uuid.toChars = uuid.toChars :=
    removeWord_of_not_mem hNoWord _
  simp only [payload, payloadBy, List.map_id, id_eq, hFirst, hSecond,
    Text.trimBy_of_forall hNoBrace, filter_toChars]

theorem trim_toText (uuid : Uuid) : Text.trim uuid.toText = uuid.toText := by
  have hChars : ∀ c ∈ uuid.toChars, Text.isBlank c = false := by
    intro c hMem
    rcases mem_toChars hMem with hDigit | rfl
    · exact hDigit.isDigitOnly.notBlank.1
    · decide
  rw [Text.trim, toText, String.toList_ofList, Text.trimBy_of_forall hChars]

theorem read_toText (uuid : Uuid) : read uuid.toText = .ok uuid := by
  have hNonempty : uuid.hexDigits ≠ [] := by
    apply List.ne_nil_of_length_pos
    rw [length_hexDigits]
    omega
  have hDigits : ∀ c ∈ uuid.hexDigits, IsDigitOnly c :=
    fun c hMem => (isHexDigit_of_mem_hexDigits hMem).isDigitOnly
  have hNumber : readInteger .sixteen (String.ofList uuid.hexDigits) = .ok (uuid.number : Int) := by
    rw [readInteger_sixteen hDigits hNonempty, hexDigits, hexValue_hexDigits]
  rw [read, toText, String.toList_ofList, payload_toChars]
  simp only [length_hexDigits, ne_eq, not_true_eq_false, if_false, hNumber]
  rw [dif_pos ⟨Int.natCast_nonneg _, uuid.inRange⟩]
  rfl

end Uuid

end SqlDialects
