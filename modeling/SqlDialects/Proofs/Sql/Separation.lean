import SqlDialects.Proofs.Sql.Quotation

/-!
# Telling texts apart

A writer separates what it writes from what comes after if the two can be told apart in
the joined text.  Quoted texts are separated from whatever no quote starts, numerals from
whatever no digit starts, and items with separators between them from whatever no separator
starts.  So a statement that is made of such parts has only one reading.
-/

namespace SqlDialects.Sql

open Number
open Text (Points CodePoint)

/-- What is written and what comes after it follow from the joined text. -/
def Separates {α : Type} (write : α → List CodePoint) (after : List CodePoint → Prop) : Prop :=
  ∀ first second rest other, after rest → after other →
    write first ++ rest = write second ++ other → first = second ∧ rest = other

/-! ## Quoted texts -/

theorem separates_enclose (quote : Char) :
    Separates (fun text => (enclose quote text).toList)
      fun rest => rest.head? ≠ some (.char quote) := by
  intro first second rest other hRest hOther hEqual
  have hFirst := (isReadAs_enclose quote first).read hRest
  rw [hEqual, (isReadAs_enclose quote second).read hOther] at hFirst
  obtain ⟨hText, hAfter⟩ := Prod.mk.inj (Option.some.inj hFirst)
  exact ⟨(Points.toList_inj.1 hText).symm, hAfter.symm⟩

/-! ## Numerals -/

def isDigitPoint : CodePoint → Bool
  | .char c => c.isDigit
  | .half _ => false

def StartsWithoutDigit (text : List CodePoint) : Prop :=
  ∀ point, text.head? = some point → isDigitPoint point = false

private theorem takeWhile_digits {digits : List Char} {rest : List CodePoint}
    (hDigits : ∀ c ∈ digits, c.isDigit = true) (hRest : StartsWithoutDigit rest) :
    (digits.map CodePoint.char ++ rest).takeWhile isDigitPoint = digits.map CodePoint.char := by
  rw [List.takeWhile_append_of_pos (by simpa [isDigitPoint] using hDigits)]
  cases rest with
  | nil => simp
  | cons point rest =>
      have hPoint : isDigitPoint point = false := hRest point rfl
      simp [hPoint]

theorem separates_natText :
    Separates (fun number => (Points.ofString (natText number)).toList) StartsWithoutDigit := by
  intro first second rest other hRest hOther hEqual
  have hDigits (number : Nat) : ∀ c ∈ Nat.toDigits 10 number, c.isDigit = true :=
    fun c hMem => Nat.isDigit_of_mem_toDigits (by decide) (by decide) hMem
  simp only [natText, Points.toList_ofString, String.toList_ofList] at hEqual
  have hNumeral := takeWhile_digits (hDigits first) hRest
  rw [hEqual, takeWhile_digits (hDigits second) hOther] at hNumeral
  rw [hNumeral] at hEqual
  refine ⟨?_, List.append_cancel_left hEqual⟩
  rw [← Nat.ofDigitChars_ten_toDigits (n := first), ← Points.map_char_inj.1 hNumeral,
    Nat.ofDigitChars_ten_toDigits]

private theorem natText_ne_minus (number : Nat) (rest other : List CodePoint) :
    (Points.ofString (natText number)).toList ++ rest ≠ .char '-' :: other := by
  obtain ⟨digit, digits, hDigits⟩ :=
    List.exists_cons_of_ne_nil (Nat.toDigits_ne_nil (n := number) (b := 10))
  have hDigit : digit.isDigit = true :=
    Nat.isDigit_of_mem_toDigits (b := 10) (n := number) (by decide) (by decide) (by simp [hDigits])
  rw [natText, Points.toList_ofString, String.toList_ofList, hDigits]
  intro hEqual
  obtain rfl : digit = '-' := by simpa using congrArg List.head? hEqual
  cases hDigit

theorem separates_integerText :
    Separates (fun number => (Points.ofString (integerText number)).toList)
      StartsWithoutDigit := by
  intro first second rest other hRest hOther hEqual
  have hMinus (number : Nat) : (Points.ofString ("-" ++ natText number)).toList =
      .char '-' :: (Points.ofString (natText number)).toList := by
    simp
  simp only [integerText] at hEqual
  split at hEqual <;> split at hEqual
  · next hFirst hSecond =>
    rw [hMinus, hMinus, List.cons_append, List.cons_append, List.cons.injEq] at hEqual
    obtain ⟨hNumber, hAfter⟩ := separates_natText _ _ rest other hRest hOther hEqual.2
    exact ⟨by omega, hAfter⟩
  · rw [hMinus] at hEqual
    exact absurd hEqual.symm (natText_ne_minus _ _ _)
  · rw [hMinus] at hEqual
    exact absurd hEqual (natText_ne_minus _ _ _)
  · next hFirst hSecond =>
    obtain ⟨hNumber, hAfter⟩ := separates_natText _ _ rest other hRest hOther hEqual
    exact ⟨by omega, hAfter⟩

/-! ## Items -/

section

variable {α : Type} {write : α → List CodePoint} {after : List CodePoint → Prop}

theorem Separates.append_text (hWrite : Separates write after) {text : List CodePoint}
    (hText : ∀ rest, after (text ++ rest)) :
    Separates (fun item => write item ++ text) fun _ => True := by
  intro first second rest other _ _ hEqual
  simp only [List.append_assoc] at hEqual
  obtain ⟨hItem, hRest⟩ := hWrite _ _ _ _ (hText rest) (hText other) hEqual
  exact ⟨hItem, List.append_cancel_left hRest⟩

theorem Separates.intercalate (hWrite : Separates write after) {separator : List CodePoint}
    (hSeparator : ∀ rest, after (separator ++ rest)) {firsts seconds : List α}
    (hFirsts : firsts ≠ []) (hSeconds : seconds ≠ []) {rest other : List CodePoint}
    (hRest : after rest) (hOther : after other) (hRestStart : ¬separator <+: rest)
    (hOtherStart : ¬separator <+: other)
    (hEqual : separator.intercalate (firsts.map write) ++ rest =
      separator.intercalate (seconds.map write) ++ other) : firsts = seconds ∧ rest = other := by
  induction firsts generalizing seconds with
  | nil => contradiction
  | cons first firsts ih =>
      cases seconds with
      | nil => contradiction
      | cons second seconds =>
          -- Either list may end here; then what comes after the other one starts with a separator.
          cases firsts with
          | nil =>
              cases seconds with
              | nil => simpa using hWrite _ _ _ _ hRest hOther (by simpa using hEqual)
              | cons next seconds =>
                  simp only [List.map_cons, List.map_nil, List.intercalate_singleton,
                    List.intercalate_cons_cons, List.append_assoc] at hEqual
                  obtain ⟨-, hLater⟩ := hWrite _ _ _ _ hRest (hSeparator _) hEqual
                  exact absurd ⟨_, hLater.symm⟩ hRestStart
          | cons following firsts =>
              cases seconds with
              | nil =>
                  simp only [List.map_cons, List.map_nil, List.intercalate_singleton,
                    List.intercalate_cons_cons, List.append_assoc] at hEqual
                  obtain ⟨-, hLater⟩ := hWrite _ _ _ _ (hSeparator _) hOther hEqual
                  exact absurd ⟨_, hLater⟩ hOtherStart
              | cons next seconds =>
                  simp only [List.map_cons, List.intercalate_cons_cons, List.append_assoc] at hEqual
                  obtain ⟨rfl, hLater⟩ := hWrite _ _ _ _ (hSeparator _) (hSeparator _) hEqual
                  have hTail := List.append_cancel_left hLater
                  rw [← List.map_cons, ← List.map_cons] at hTail
                  obtain ⟨hItems, hAfter⟩ := ih (by simp) (by simp) hTail
                  exact ⟨by rw [hItems], hAfter⟩

end

end SqlDialects.Sql
