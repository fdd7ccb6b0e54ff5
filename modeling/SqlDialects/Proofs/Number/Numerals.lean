import SqlDialects.Number.Decimal
import SqlDialects.Proofs.Number.Digits
import SqlDialects.Proofs.Sql.Numeral
import SqlDialects.Proofs.Text.Uuid

/-!
# Numerals are read back

The numeral of an integer is read as that integer, unless it is too long
(`Number.readInteger_integerText`), and the text of a finite decimal number as the same sign,
digits and exponent (`Decimal.read_toText`).  Numerals have neither blanks nor underscores,
so nothing is dropped before they are read.
-/

namespace SqlDialects

open Sql (IsNumeral isNumeralChar)

/-! ## Characters -/

theorem isBlank_of_isNumeralChar {c : Char} (hChar : isNumeralChar c = true) :
    Text.isBlank c = false ∧ Text.plainNumeral c = c ∧ c ≠ '_' := by
  simp only [isNumeralChar, Bool.or_eq_true, List.contains_iff_mem] at hChar
  rcases hChar with hDigit | hMem
  · have hRange : 48 ≤ c.toNat ∧ c.toNat ≤ 57 := Char.isDigit_iff_toNat.1 hDigit
    refine ⟨Text.isBlank_of_isDigit hDigit, ?_, ?_⟩
    · rw [Text.plainNumeral, if_pos (by omega)]
    · rintro rfl
      contradiction
  · have hAll : "+-.eEIinftyNasTRUFALS".toList.all (fun c =>
        Text.isBlank c == false && Text.plainNumeral c == c && c != '_') = true := by
      decide
    have hFacts := List.all_eq_true.1 hAll c hMem
    simp only [Bool.and_eq_true, beq_iff_eq, bne_iff_ne, ne_eq] at hFacts
    exact ⟨hFacts.1.1, hFacts.1.2, hFacts.2⟩

namespace Text

variable {text : List Char} (hText : IsNumeral text)
include hText

theorem trimBy_of_isNumeral : trimBy isBlank text = text :=
  trimBy_of_forall fun c hMem => (isBlank_of_isNumeralChar (hText c hMem)).1

theorem trimStartBy_of_isNumeral : trimStartBy isAsciiBlank text = text := by
  cases text with
  | nil => rfl
  | cons c rest =>
      have hBlank : isAsciiBlank c = false := by
        have hNone := (isBlank_of_isNumeralChar (hText c (by simp))).1
        simp only [isBlank, Bool.or_eq_false_iff] at hNone
        exact hNone.1.1
      simp [trimStartBy, hBlank]

theorem map_plainNumeral_of_isNumeral : text.map plainNumeral = text := by
  rw [List.map_congr_left fun c hMem => (isBlank_of_isNumeralChar (hText c hMem)).2.1]
  simp

theorem filter_of_isNumeral : text.filter (· != '_') = text :=
  List.filter_eq_self.2 fun c hMem => by
    simpa using (isBlank_of_isNumeralChar (hText c hMem)).2.2

omit hText

theorem trim_of_isNumeral {text : String} (hText : IsNumeral text.toList) : trim text = text := by
  rw [trim, trimBy_of_isNumeral hText, String.ofList_toList]

end Text

theorem span_append {p : Char → Bool} {first : List Char} (hFirst : ∀ c ∈ first, p c = true)
    (rest : List Char) (hRest : ∀ c, rest.head? = some c → p c = false) :
    (first ++ rest).span p = (first, rest) := by
  have hStop : rest.takeWhile p = [] ∧ rest.dropWhile p = rest := by
    cases rest with
    | nil => simp
    | cons c rest => simp [hRest c rfl]
  rw [List.span_eq_takeWhile_dropWhile, List.takeWhile_append_of_pos hFirst,
    List.dropWhile_append_of_pos hFirst, hStop.1, hStop.2, List.append_nil]

namespace Number

/-! ## Digits -/

def AreDigits (text : List Char) : Prop :=
  ∀ c ∈ text, c.isDigit = true

theorem areDigits_toDigits (number : Nat) : AreDigits (Nat.toDigits 10 number) :=
  fun _ hMem => Nat.isDigit_of_mem_toDigits (by decide) (by decide) hMem

theorem areDigits_zeros (count : Nat) : AreDigits (zeros count) := by
  intro c hMem
  rw [List.eq_of_mem_replicate hMem]
  decide

theorem AreDigits.append {first second : List Char} (hFirst : AreDigits first)
    (hSecond : AreDigits second) : AreDigits (first ++ second) :=
  fun c hMem => (List.mem_append.1 hMem).elim (hFirst c) (hSecond c)

theorem AreDigits.mono {text part : List Char} (hText : AreDigits text) (hPart : part ⊆ text) :
    AreDigits part :=
  fun c hMem => hText c (hPart hMem)

theorem asciiDigit?_eq (c : Char) :
    Text.asciiDigit? c = if c.isDigit then some (c.toNat - 48) else none := rfl

theorem asciiDigit?_of_isDigit {c : Char} (hDigit : c.isDigit = true) :
    Text.asciiDigit? c = some (c.toNat - 48) := by
  rw [asciiDigit?_eq, if_pos hDigit]

theorem isSome_asciiDigit? (c : Char) : (Text.asciiDigit? c).isSome = c.isDigit := by
  rw [asciiDigit?_eq]
  cases c.isDigit <;> rfl

theorem digitsValue_eq (digits : List Char) :
    digitsValue digits = Nat.ofDigitChars 10 digits 0 := by
  rw [digitsValue, Nat.ofDigitChars_eq_foldl]
  congr 1
  funext value c
  exact congrArg (· + (c.toNat - 48)) (Nat.mul_comm value 10)

theorem digitsValue_toDigits (number : Nat) : digitsValue (Nat.toDigits 10 number) = number := by
  rw [digitsValue_eq, Nat.ofDigitChars_ten_toDigits]

theorem digitsValue_zeros_append (count : Nat) (digits : List Char) :
    digitsValue (zeros count ++ digits) = digitsValue digits := by
  rw [digitsValue_eq, digitsValue_eq, Nat.ofDigitChars_append, zeros,
    Nat.ofDigitChars_replicate_zero, Nat.mul_zero]

/-! ## Integers -/

theorem digitsFrom_ten {digits : List Char} (hDigits : AreDigits digits) (value count : Nat) :
    digitsFrom .ten value count digits =
      some (Nat.ofDigitChars 10 digits value, count + digits.length, []) := by
  induction digits generalizing value count with
  | nil => rfl
  | cons c digits ih =>
      have hDigit : Base.digit? .ten c = some (c.toNat - 48) :=
        asciiDigit?_of_isDigit (hDigits c (by simp))
      have hOthers := ih fun other hOther => hDigits other (by simp [hOther])
      rw [digitsFrom_cons hDigit, hOthers, Nat.ofDigitChars_cons]
      simp [Base.size, Nat.add_comm, Nat.add_left_comm, Nat.mul_comm]

theorem digits?_toDigits (number : Nat) :
    digits? .ten (Nat.toDigits 10 number) =
      some (number, (Nat.toDigits 10 number).length, []) := by
  have hDigits := areDigits_toDigits number
  have hValue := Nat.ofDigitChars_ten_toDigits (n := number)
  have hSome := Nat.toDigits_ne_nil (n := number) (b := 10)
  obtain ⟨c, rest, hText⟩ := List.exists_cons_of_ne_nil hSome
  rw [hText] at hDigits hValue ⊢
  have hDigit : Base.digit? .ten c = some (c.toNat - 48) :=
    asciiDigit?_of_isDigit (hDigits c (by simp))
  have hOthers : AreDigits rest := fun other hOther => hDigits other (by simp [hOther])
  rw [Nat.ofDigitChars_cons, Nat.mul_zero, Nat.zero_add] at hValue
  rw [digits?, hDigit]
  simp only [digitsFrom_ten hOthers]
  rw [← hValue, List.length_cons, Nat.add_comm 1]
  rfl

theorem toList_integerText (number : Int) :
    (integerText number).toList =
      Decimal.signText (decide (number < 0)) ++ Nat.toDigits 10 number.natAbs := by
  by_cases hNegative : number < 0 <;> simp [integerText, natText, Decimal.signText, hNegative]

theorem splitSign_signText (negative : Bool) {text : List Char}
    (hText : text.head? ≠ some '-' ∧ text.head? ≠ some '+') :
    splitSign (Decimal.signText negative ++ text) = (negative, text) := by
  cases negative with
  | true => rfl
  | false =>
      rw [Decimal.signText, if_neg (by simp), List.nil_append]
      unfold splitSign
      split <;> simp_all

theorem AreDigits.head?_ne {text : List Char} (hText : AreDigits text) {c : Char}
    (hOther : c.isDigit = false) : text.head? ≠ some c := by
  intro hHead
  have hDigit := hText c (List.mem_of_head? hHead)
  rw [hOther] at hDigit
  cases hDigit

theorem dropBaseMark_ten (text : List Char) : dropBaseMark .ten text = text := by
  unfold dropBaseMark
  split
  · rw [if_neg (by simp [Base.mark?])]
  · rfl

theorem length_toDigits_of_isWritable {number : Int} (hNumber : isWritable number = true) :
    (Nat.toDigits 10 number.natAbs).length ≤ maxDigits := by
  rw [isWritable, decide_eq_true_eq] at hNumber
  have hPositive : 0 < maxDigits := by decide
  generalize maxDigits = most at hNumber hPositive ⊢
  exact (Nat.length_toDigits_le_iff (by decide) hPositive).2 hNumber

theorem readInteger_integerText {number : Int} (hNumber : isWritable number = true) :
    readInteger .ten (integerText number) = .ok number := by
  have hNumeral := Sql.isNumeral_integerText number
  have hDigits := areDigits_toDigits number.natAbs
  have hSign := splitSign_signText (decide (number < 0))
    ⟨hDigits.head?_ne (c := '-') (by decide), hDigits.head?_ne (c := '+') (by decide)⟩
  have hShort : ¬(True ∧ maxDigits < (Nat.toDigits 10 number.natAbs).length) := by
    have hLength := length_toDigits_of_isWritable hNumber
    omega
  rw [readInteger, Text.map_plainNumeral_of_isNumeral hNumeral, readAscii,
    Text.trimStartBy_of_isNumeral hNumeral, toList_integerText, hSign]
  simp only [dropBaseMark_ten, digits?_toDigits, List.all_nil, if_true]
  rw [if_neg hShort, Except.ok.injEq]
  by_cases hNegative : number < 0
  · rw [if_pos (by simpa using hNegative)]
    omega
  · rw [if_neg (by simpa using hNegative)]
    omega

/-! ## Parts of decimal numerals -/

theorem spanDigits_append {digits rest : List Char} (hDigits : AreDigits digits)
    (hRest : ∀ c, rest.head? = some c → c.isDigit = false) :
    spanDigits (digits ++ rest) = (digits, rest) :=
  span_append (fun c hMem => (isSome_asciiDigit? c).trans (hDigits c hMem)) rest
    fun c hHead => (isSome_asciiDigit? c).trans (hRest c hHead)

/-- Nothing or an exponent, as it is written after digits. -/
def exponentTail (exponent : Int) : List Char :=
  if exponent = 0 then []
  else 'E' :: (if exponent < 0 then '-' else '+') :: Nat.toDigits 10 exponent.natAbs

theorem isDigit_head?_exponentTail (exponent : Int) :
    ∀ c, (exponentTail exponent).head? = some c → c.isDigit = false := by
  intro c hHead
  unfold exponentTail at hHead
  split at hHead
  · cases hHead
  · rw [← Option.some.inj hHead]
    decide

theorem exponentPart?_sign (negative : Bool) (size : Nat) :
    exponentPart? ('E' :: (if negative then '-' else '+') :: Nat.toDigits 10 size) =
      some (if negative then -(size : Int) else size) := by
  have hDigits : (Nat.toDigits 10 size).all (fun c => (Text.asciiDigit? c).isSome) = true :=
    List.all_eq_true.2 fun c hMem =>
      (isSome_asciiDigit? c).trans (areDigits_toDigits size c hMem)
  have hSome : (Nat.toDigits 10 size).isEmpty = false := by
    simp
  cases negative <;> simp [exponentPart?, splitSign, hDigits, hSome, digitsValue_toDigits]

theorem exponentPart?_exponentTail (exponent : Int) :
    exponentPart? (exponentTail exponent) = some exponent := by
  by_cases hZero : exponent = 0
  · rw [exponentTail, if_pos hZero, hZero]
    rfl
  · have hRead := exponentPart?_sign (decide (exponent < 0)) exponent.natAbs
    simp only [decide_eq_true_eq] at hRead
    rw [exponentTail, if_neg hZero, hRead]
    congr 1
    omega

section

variable {whole : List Char} (hWhole : AreDigits whole) (hSome : whole ≠ [])
include hWhole hSome

theorem splitSign_digits (negative : Bool) (rest : List Char) :
    splitSign (Decimal.signText negative ++ (whole ++ rest)) = (negative, whole ++ rest) := by
  have hStart {c : Char} (hOther : c.isDigit = false) : (whole ++ rest).head? ≠ some c := by
    rw [List.head?_append, List.head?_eq_some_head hSome, Option.some_or,
      ← List.head?_eq_some_head hSome]
    exact hWhole.head?_ne hOther
  exact splitSign_signText negative ⟨hStart (by decide), hStart (by decide)⟩

theorem decimalNumeral?_whole (negative : Bool) (exponent : Int) :
    decimalNumeral? (Decimal.signText negative ++ (whole ++ exponentTail exponent)) =
      some ⟨negative, digitsValue whole, exponent⟩ := by
  have hTail := exponentPart?_exponentTail exponent
  rw [decimalNumeral?, splitSign_digits hWhole hSome]
  simp only [spanDigits_append hWhole (isDigit_head?_exponentTail exponent)]
  -- No point follows, so there is no fraction.
  by_cases hZero : exponent = 0
  · rw [exponentTail, if_pos hZero] at hTail ⊢
    simp [hSome, hTail]
  · rw [exponentTail, if_neg hZero] at hTail ⊢
    simp [hSome, hTail]

theorem decimalNumeral?_fraction {fraction : List Char} (hFraction : AreDigits fraction)
    (negative : Bool) (exponent : Int) :
    decimalNumeral?
        (Decimal.signText negative ++ (whole ++ '.' :: (fraction ++ exponentTail exponent))) =
      some ⟨negative, digitsValue (whole ++ fraction), exponent - fraction.length⟩ := by
  have hPoint : ∀ c, ('.' :: (fraction ++ exponentTail exponent)).head? = some c →
      c.isDigit = false := by
    rintro c hHead
    obtain rfl : '.' = c := Option.some.inj hHead
    decide
  have hTail := isDigit_head?_exponentTail exponent
  rw [decimalNumeral?, splitSign_digits hWhole hSome]
  simp [spanDigits_append hWhole hPoint, spanDigits_append hFraction hTail, hSome,
    exponentPart?_exponentTail]

end

end Number

namespace Decimal

open Number

/-! ## Decimal numbers -/

section

variable {digits : List Char} (hDigits : AreDigits digits) (negative : Bool)
  (exponent : Int) {place : Int}
include hDigits

theorem decimalNumeral?_pointBefore (hPlace : place ≤ 0) :
    decimalNumeral? (signText negative ++ ('0' :: '.' :: zeros (-place).toNat ++ digits ++
        exponentTail (exponent + digits.length - place))) =
      some ⟨negative, digitsValue digits, exponent⟩ := by
  have hZero : AreDigits ['0'] := by
    intro c hMem
    rw [List.mem_singleton.1 hMem]
    decide
  have hNumeral := decimalNumeral?_fraction hZero (by simp)
    ((areDigits_zeros (-place).toNat).append hDigits) negative
    (exponent + digits.length - place)
  have hValue : digitsValue (['0'] ++ (zeros (-place).toNat ++ digits)) = digitsValue digits := by
    rw [show ['0'] = zeros 1 from rfl, digitsValue_zeros_append, digitsValue_zeros_append]
  rw [hValue] at hNumeral
  simp only [List.cons_append, List.nil_append, List.append_assoc] at hNumeral ⊢
  rw [hNumeral]
  congr 2
  simp only [zeros, List.length_append, List.length_replicate, Int.natCast_add]
  omega

theorem decimalNumeral?_pointInside (hPositive : 0 < place) (hPlace : place < digits.length) :
    decimalNumeral? (signText negative ++
        (digits.take place.toNat ++ '.' :: digits.drop place.toNat ++
          exponentTail (exponent + digits.length - place))) =
      some ⟨negative, digitsValue digits, exponent⟩ := by
  have hFront : digits.take place.toNat ≠ [] := by
    apply List.ne_nil_of_length_pos
    rw [List.length_take]
    omega
  have hNumeral := decimalNumeral?_fraction (hDigits.mono (List.take_subset _ _)) hFront
    (hDigits.mono (List.drop_subset place.toNat _)) negative
    (exponent + digits.length - place)
  rw [List.take_append_drop] at hNumeral
  simp only [List.append_assoc, List.cons_append] at hNumeral ⊢
  rw [hNumeral]
  congr 2
  rw [List.length_drop]
  omega

theorem decimalNumeral?_withoutPoint (hSome : digits ≠ []) (hPlace : place = digits.length) :
    decimalNumeral? (signText negative ++ (digits ++ zeros (place - digits.length).toNat ++
        exponentTail (exponent + digits.length - place))) =
      some ⟨negative, digitsValue digits, exponent⟩ := by
  subst hPlace
  rw [Int.sub_self, Int.toNat_zero, zeros, List.replicate_zero, List.append_nil,
    Int.add_sub_cancel]
  exact decimalNumeral?_whole hDigits hSome negative exponent

end

/-- The text of a finite number without its sign is digits with a point in one of three
places, or without one, and an exponent. -/
theorem decimalNumeral?_finiteText (negative : Bool) (coefficient : Nat) (exponent : Int) :
    decimalNumeral? (signText negative ++ finiteText coefficient exponent) =
      some ⟨negative, coefficient, exponent⟩ := by
  have hDigits := areDigits_toDigits coefficient
  have hValue := digitsValue_toDigits coefficient
  have hLength : 0 < (Nat.toDigits 10 coefficient).length := Nat.length_toDigits_pos
  have hTail (leading place : Int) :
      (if leading = place then []
        else 'E' :: (if leading - place < 0 then '-' else '+') ::
          Nat.toDigits 10 (leading - place).natAbs) = exponentTail (leading - place) := by
    simp only [exponentTail, Int.sub_eq_zero]
  unfold finiteText
  generalize Nat.toDigits 10 coefficient = digits at hDigits hValue hLength ⊢
  dsimp only
  rw [hTail, ← hValue]
  generalize hPlace : (if exponent ≤ 0 ∧ -6 < exponent + (digits.length : Int)
    then exponent + (digits.length : Int) else 1) = place
  split
  · next hBefore => exact decimalNumeral?_pointBefore hDigits negative exponent hBefore
  · next hPositive =>
    split
    · next hWhole =>
      have hExact : place = digits.length := by
        split at hPlace <;> omega
      exact decimalNumeral?_withoutPoint hDigits negative exponent
        (List.ne_nil_of_length_pos hLength) hExact
    · next hInside =>
      exact decimalNumeral?_pointInside hDigits negative exponent (by omega) (by omega)

theorem read_toText {negative : Bool} {coefficient : Nat} {exponent : Int}
    (hFits : fits coefficient exponent = true) :
    read (finite negative coefficient exponent).toText =
      .ok (finite negative coefficient exponent) := by
  have hNumeral : IsNumeral (signText negative ++ finiteText coefficient exponent) := by
    simpa [toText, toChars] using Sql.isNumeral_toText (finite negative coefficient exponent)
  rw [read, toText, String.toList_ofList, toChars]
  simp only [Text.trimBy_of_isNumeral hNumeral, Text.filter_of_isNumeral hNumeral,
    Text.map_plainNumeral_of_isNumeral hNumeral, decimalNumeral?_finiteText, hFits, if_true]

theorem special?_isFinite {text : List Char} {number : Decimal}
    (hNumber : special? text = some number) : number.isFinite = false := by
  simp only [special?] at hNumber
  split at hNumber
  · obtain rfl := Option.some.inj hNumber
    rfl
  · split at hNumber
    · obtain ⟨payload, -, rfl⟩ := Option.map_eq_some_iff.1 hNumber
      rfl
    · obtain ⟨payload, -, rfl⟩ := Option.map_eq_some_iff.1 hNumber
      rfl
    · cases hNumber

theorem exists_finite_of_read {text : String} {number : Decimal} (hRead : read text = .ok number)
    (hFinite : number.isFinite = true) :
    ∃ negative coefficient exponent, number = finite negative coefficient exponent ∧
      fits coefficient exponent = true := by
  simp only [read] at hRead
  split at hRead
  · next numeral _ =>
    split at hRead
    · next hFits =>
      cases hRead
      exact ⟨_, _, _, rfl, hFits⟩
    · cases hRead
  · split at hRead
    · next found hFound =>
      cases hRead
      rw [special?_isFinite hFound] at hFinite
      cases hFinite
    · cases hRead

/-! ## Integers as decimal numbers -/

def ofInteger (number : Int) : Decimal :=
  finite (decide (number < 0)) number.natAbs 0

theorem toText_ofInteger (number : Int) : (ofInteger number).toText = integerText number := by
  have hLength : 0 < (Nat.toDigits 10 number.natAbs).length := Nat.length_toDigits_pos
  rw [← String.toList_inj, toList_integerText, toText, String.toList_ofList, ofInteger, toChars]
  congr 1
  unfold finiteText
  generalize Nat.toDigits 10 number.natAbs = digits at hLength ⊢
  have hPlace : (0 : Int) ≤ 0 ∧ -6 < (0 : Int) + (digits.length : Int) := by omega
  dsimp only
  rw [if_pos hPlace, if_neg (by omega), if_pos (by omega), if_pos rfl]
  simp [zeros]

theorem fits_ofInteger {number : Int} (hNumber : isWritable number = true) :
    fits number.natAbs 0 = true := by
  have hLength := length_toDigits_of_isWritable hNumber
  have hMost : maxDigits = 4300 := rfl
  have hGreatest : greatestExponent = 999999999999999999 := rfl
  have hLeast : leastExponent = -1999999999999999997 := rfl
  rw [hMost] at hLength
  simp only [fits, Bool.and_eq_true, decide_eq_true_eq, hGreatest, hLeast]
  constructor
  · split <;> omega
  · omega

end Decimal

end SqlDialects
