import Mathlib.Data.List.TakeDrop
import SqlDialects.Number.Real

/-!
# How large numerals are

The value of decimal digits is bounded by how many there are.  So an integer that was read
from few enough digits can be written again.
-/

namespace SqlDialects.Number

theorem isWritable_of_natAbs_lt {number : Int} (digits : Nat)
    (hNumber : number.natAbs < Nat.pow 10 digits) (hDigits : digits ≤ maxDigits) :
    isWritable number = true := by
  rw [isWritable, decide_eq_true_eq]
  -- The largest number of digits is not computed with.
  generalize maxDigits = most at hDigits ⊢
  exact Nat.lt_of_lt_of_le hNumber (Nat.pow_le_pow_right (by decide) hDigits)

theorem asciiDigit?_eq_some {c : Char} {digit : Nat} (hDigit : Text.asciiDigit? c = some digit) :
    digit = c.toNat - 48 ∧ digit < 10 := by
  unfold Text.asciiDigit? at hDigit
  split at hDigit
  · next hRange =>
    obtain rfl := Option.some.inj hDigit
    have hLast : c ≤ '9' := by simpa using (Bool.and_eq_true_iff.1 hRange).2
    have hNumber : c.toNat ≤ 57 := hLast
    exact ⟨rfl, by omega⟩
  · cases hDigit

theorem push_lt {value count digit : Nat} (hValue : value < Nat.pow 10 count)
    (hDigit : digit < 10) : value * 10 + digit < Nat.pow 10 (count + 1) := by
  have hPower : Nat.pow 10 (count + 1) = Nat.pow 10 count * 10 := rfl
  omega

theorem foldl_digits_lt {digits : List Char}
    (hDigits : ∀ c ∈ digits, (Text.asciiDigit? c).isSome = true) (value count : Nat)
    (hValue : value < Nat.pow 10 count) :
    digits.foldl (fun value c => value * 10 + (c.toNat - 48)) value <
      Nat.pow 10 (count + digits.length) := by
  induction digits generalizing value count with
  | nil => exact hValue
  | cons c digits ih =>
      obtain ⟨digit, hDigit⟩ := Option.isSome_iff_exists.1 (hDigits c (by simp))
      obtain ⟨rfl, hTen⟩ := asciiDigit?_eq_some hDigit
      have hOthers := ih (fun other hOther => hDigits other (by simp [hOther])) _ _
        (push_lt hValue hTen)
      rwa [List.length_cons, Nat.add_comm digits.length, ← Nat.add_assoc]

theorem digitsValue_lt {digits : List Char}
    (hDigits : ∀ c ∈ digits, (Text.asciiDigit? c).isSome = true) :
    digitsValue digits < Nat.pow 10 digits.length := by
  simpa [digitsValue] using foldl_digits_lt hDigits 0 0 (by decide)

theorem spanDigits_digits (text : List Char) :
    ∀ c ∈ (spanDigits text).1, (Text.asciiDigit? c).isSome = true := by
  intro c hMember
  rw [spanDigits, List.span_eq_takeWhile_dropWhile] at hMember
  exact List.all_eq_true.1 List.all_takeWhile c hMember

theorem digitsFrom_lt {value count : Nat} {text : List Char} (hValue : value < Nat.pow 10 count) :
    ∀ result ∈ digitsFrom .ten value count text, result.1 < Nat.pow 10 (count + text.length) := by
  have hMore {first second : Nat} (hFirst : first ≤ second) {number : Nat}
      (hNumber : number < Nat.pow 10 first) : number < Nat.pow 10 second :=
    Nat.lt_of_lt_of_le hNumber (Nat.pow_le_pow_right (by decide) hFirst)
  fun_induction digitsFrom .ten value count text with
  | case1 value count => simpa using hValue
  | case2 value count c rest digit hDigit ih =>
      intro result hResult
      refine hMore ?_ (ih (push_lt hValue (asciiDigit?_eq_some hDigit).2) result hResult)
      simp only [List.length_cons]
      omega
  | case3 => simp
  | case4 => simp
  | case5 value count c rest _ _ digit hDigit ih =>
      intro result hResult
      refine hMore ?_ (ih (push_lt hValue (asciiDigit?_eq_some hDigit).2) result hResult)
      simp only [List.length_cons]
      omega
  | case6 value count =>
      simpa using hMore (Nat.le_add_right _ _) hValue

theorem digits?_lt {text : List Char} :
    ∀ result ∈ digits? .ten text, result.1 < Nat.pow 10 text.length := by
  intro result hResult
  unfold digits? at hResult
  split at hResult
  · cases hResult
  · next c rest =>
    split at hResult
    · next digit hDigit =>
      have hFirst : digit < Nat.pow 10 1 := (asciiDigit?_eq_some hDigit).2
      rw [List.length_cons, Nat.add_comm]
      exact digitsFrom_lt hFirst result hResult
    · cases hResult

end SqlDialects.Number
