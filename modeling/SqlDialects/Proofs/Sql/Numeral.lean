import SqlDialects.Converter

/-!
# Characters of words and numerals

Keywords, type names and numerals are made of letters, digits and a few marks.
None of these is a quote, a parenthesis or a comma, so such a text cannot change
how a statement is scanned, whatever number it stands for.  Numerals and the words of
truth values have but a few letters, so they spell no other keyword either.
-/

namespace SqlDialects.Sql

open Number

def isWordChar (c : Char) : Bool :=
  c.isAlphanum || " _+-.=".toList.contains c

/-- A text of letters, digits and harmless marks. -/
def IsWord (text : List Char) : Prop :=
  ∀ c ∈ text, isWordChar c = true

instance (text : List Char) : Decidable (IsWord text) :=
  List.decidableBAll (fun c => isWordChar c = true) text

def isNumeralChar (c : Char) : Bool :=
  c.isDigit || "+-.eEIinftyNasTRUFALS".toList.contains c

/-- A text of the characters that numerals, their special names, `TRUE` and `FALSE` have. -/
def IsNumeral (text : List Char) : Prop :=
  ∀ c ∈ text, isNumeralChar c = true

instance (text : List Char) : Decidable (IsNumeral text) :=
  List.decidableBAll (fun c => isNumeralChar c = true) text

theorem isWordChar_of_isNumeralChar {c : Char} (hChar : isNumeralChar c = true) :
    isWordChar c = true := by
  simp only [isNumeralChar, Bool.or_eq_true, List.contains_iff_mem] at hChar
  rcases hChar with hDigit | hMem
  · simp [isWordChar, Char.isAlphanum, hDigit]
  · have hAll : "+-.eEIinftyNasTRUFALS".toList.all isWordChar = true := by decide
    exact List.all_eq_true.1 hAll c hMem

theorem IsNumeral.isWord {text : List Char} (hText : IsNumeral text) : IsWord text :=
  fun c hMem => isWordChar_of_isNumeralChar (hText c hMem)

@[simp] theorem isNumeral_nil : IsNumeral [] := by
  simp [IsNumeral]

@[simp] theorem isNumeral_cons {c : Char} {text : List Char} :
    IsNumeral (c :: text) ↔ isNumeralChar c = true ∧ IsNumeral text := by
  simp [IsNumeral]

@[simp] theorem isNumeral_append {first second : List Char} :
    IsNumeral (first ++ second) ↔ IsNumeral first ∧ IsNumeral second := by
  simp only [IsNumeral, List.mem_append, or_imp, forall_and]

theorem IsNumeral.mono {text part : List Char} (hText : IsNumeral text) (hPart : part ⊆ text) :
    IsNumeral part :=
  fun c hMem => hText c (hPart hMem)

@[simp] theorem isNumeral_toDigits (number : Nat) : IsNumeral (Nat.toDigits 10 number) := by
  intro c hMem
  have hDigit : c.isDigit = true := Nat.isDigit_of_mem_toDigits (by decide) (by decide) hMem
  simp [isNumeralChar, hDigit]

@[simp] theorem isNumeral_zeros (count : Nat) : IsNumeral (zeros count) := by
  intro c hMem
  obtain rfl : c = '0' := List.eq_of_mem_replicate hMem
  decide

/-! ## Numerals -/

theorem isNumeral_natText (number : Nat) : IsNumeral (natText number).toList := by
  simp [natText]

theorem isNumeral_integerText (number : Int) : IsNumeral (integerText number).toList := by
  unfold integerText
  split
  · simp [isNumeral_natText, show isNumeralChar '-' = true by decide]
  · exact isNumeral_natText _

private theorem isNumeralChar_sign (isNegative : Prop) [Decidable isNegative] :
    isNumeralChar (if isNegative then '-' else '+') = true := by
  split <;> decide

theorem isNumeral_exponentText (exponent : Int) :
    IsNumeral (RealFormat.plain.exponentText exponent) := by
  have hMark : IsNumeral RealFormat.plain.exponentMark.toList := by decide
  simp [RealFormat.exponentText, hMark, isNumeralChar_sign]

theorem isNumeral_decimalText (number : DecimalDigits) :
    IsNumeral (RealFormat.plain.decimalText number) := by
  have hDigits := isNumeral_toDigits number.digits
  have hPoint : isNumeralChar '.' = true := by decide
  have hZero : isNumeralChar '0' = true := by decide
  unfold RealFormat.decimalText
  generalize Nat.toDigits 10 number.digits = digits at hDigits ⊢
  dsimp only
  split
  · split
    · simp [hDigits, hPoint, hZero]
    · generalize (number.exponent + ↑digits.length - 1 + 1).toNat = whole
      have hPadded : IsNumeral (digits ++ zeros (whole - digits.length)) := by simp [hDigits]
      generalize digits ++ zeros (whole - digits.length) = padded at hPadded ⊢
      rw [isNumeral_append, isNumeral_cons]
      refine ⟨hPadded.mono (List.take_subset _ _), hPoint, ?_⟩
      split
      · simp [hZero]
      · exact hPadded.mono (List.drop_subset _ _)
  · rw [isNumeral_append]
    refine ⟨?_, isNumeral_exponentText _⟩
    split
    · simpa [hPoint] using hDigits
    · exact hDigits

theorem isNumeral_realText (number : Float) : IsNumeral (realText number).toList := by
  have hMinus : IsNumeral (if (binaryParts number).negative then "-" else "").toList := by
    split <;> decide
  unfold realText RealFormat.text
  split
  · decide
  · dsimp only
    split
    · rw [String.toList_append, isNumeral_append]
      exact ⟨hMinus, by decide⟩
    · split
      · rw [String.toList_append, isNumeral_append]
        exact ⟨hMinus, by decide⟩
      · rw [String.toList_append, isNumeral_append, String.toList_ofList]
        exact ⟨hMinus, isNumeral_decimalText _⟩

theorem isNumeral_signText (negative : Bool) : IsNumeral (Decimal.signText negative) := by
  cases negative <;> decide

theorem isNumeral_finiteText (coefficient : Nat) (exponent : Int) :
    IsNumeral (Decimal.finiteText coefficient exponent) := by
  have hDigits := isNumeral_toDigits coefficient
  have hPoint : isNumeralChar '.' = true := by decide
  have hZero : isNumeralChar '0' = true := by decide
  unfold Decimal.finiteText
  generalize Nat.toDigits 10 coefficient = digits at hDigits ⊢
  dsimp only
  rw [isNumeral_append]
  generalize (if exponent ≤ 0 ∧ -6 < exponent + (digits.length : Int)
    then exponent + (digits.length : Int) else 1) = place
  constructor
  · split
    · simp [hDigits, hPoint, hZero]
    · split
      · simp [hDigits]
      · rw [isNumeral_append, isNumeral_cons]
        exact ⟨hDigits.mono (List.take_subset _ _), hPoint,
          hDigits.mono (List.drop_subset _ _)⟩
  · split
    · exact isNumeral_nil
    · have hMark : isNumeralChar 'E' = true := by decide
      simp [hMark, isNumeralChar_sign]

theorem isNumeral_toText (number : Decimal) : IsNumeral number.toText.toList := by
  rw [Decimal.toText, String.toList_ofList]
  cases number with
  | finite negative coefficient exponent =>
      rw [Decimal.toChars, isNumeral_append]
      exact ⟨isNumeral_signText negative, isNumeral_finiteText coefficient exponent⟩
  | infinity negative =>
      rw [Decimal.toChars, isNumeral_append]
      exact ⟨isNumeral_signText negative, by decide⟩
  | notANumber negative signaling payload =>
      have hName : IsNumeral (if signaling then "sNaN" else "NaN").toList := by
        cases signaling <;> decide
      rw [Decimal.toChars, isNumeral_append, isNumeral_append]
      refine ⟨⟨isNumeral_signText negative, hName⟩, ?_⟩
      split <;> simp

end SqlDialects.Sql
