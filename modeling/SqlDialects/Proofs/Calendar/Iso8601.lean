import Mathlib.Algebra.Group.Nat.Defs
import SqlDialects.Calendar.Iso8601
import SqlDialects.Proofs.Number.Numerals

/-!
# Points in time are read back

What is written of a point in time is read as the same point in time
(`Calendar.readIso_isoChars`), save that an offset of less than a second is read as none at
all.  Such an offset is never read from a text, so a point in time that was read is read
back as it is (`Calendar.asRead_of_readIso`).
-/

namespace SqlDialects

open Calendar Number

/-- An offset as it is read back: one of less than a second is lost. -/
def Offset.asRead (offset : Offset) : Offset :=
  if offset.microseconds.natAbs < 1000000 then ⟨0, by decide⟩ else offset

/-- A point in time as it is read back. -/
def DateTime.asRead (moment : DateTime) : DateTime :=
  { moment with offset := moment.offset.map Offset.asRead }

theorem Offset.microseconds_asRead (offset : Offset) :
    offset.asRead.microseconds =
      if offset.microseconds.natAbs < 1000000 then 0 else offset.microseconds := by
  unfold asRead
  split <;> rfl

theorem Offset.asRead_eq_iff (offset : Offset) :
    offset.asRead = offset ↔
      offset.microseconds = 0 ∨ 1000000 ≤ offset.microseconds.natAbs := by
  have hSame : offset.asRead = offset ↔ offset.asRead.microseconds = offset.microseconds := by
    cases offset
    cases hRead : Offset.asRead _
    simp
  rw [hSame, microseconds_asRead]
  split <;> omega

theorem DateTime.asRead_eq_iff (moment : DateTime) :
    moment.asRead = moment ↔
      ∀ offset ∈ moment.offset,
        offset.microseconds = 0 ∨ 1000000 ≤ offset.microseconds.natAbs := by
  obtain ⟨date, time, offset⟩ := moment
  cases offset with
  | none => simp [asRead]
  | some offset => simp [asRead, ← Offset.asRead_eq_iff]

namespace Calendar

/-! ## Padded numbers -/

theorem areDigits_padded (width number : Nat) : AreDigits (padded width number) :=
  (areDigits_zeros _).append (areDigits_toDigits number)

theorem padded_ne_nil (width number : Nat) : padded width number ≠ [] := by
  simp [padded]

theorem length_padded {width number : Nat} (hWidth : 0 < width) (hFits : number < 10 ^ width) :
    (padded width number).length = width := by
  have hLength := (Nat.length_toDigits_le_iff (b := 10) (by decide) hWidth).2 hFits
  simp only [padded, List.length_append, List.length_replicate]
  omega

theorem takeDigits_append {digits : List Char} (hDigits : AreDigits digits) (value : Nat)
    (rest : List Char) :
    takeDigits digits.length value (digits ++ rest) =
      some (Nat.ofDigitChars 10 digits value, rest) := by
  induction digits generalizing value with
  | nil => rfl
  | cons c digits ih =>
      have hOthers := ih fun other hOther => hDigits other (by simp [hOther])
      simp only [List.length_cons, List.cons_append, takeDigits,
        asciiDigit?_of_isDigit (hDigits c (by simp)), hOthers, Nat.ofDigitChars_cons]
      rw [Nat.mul_comm 10 value]
      rfl

theorem takeDigits_padded {width number : Nat} (hWidth : 0 < width)
    (hFits : number < 10 ^ width) (rest : List Char) :
    takeDigits width 0 (padded width number ++ rest) = some (number, rest) := by
  have hTaken := takeDigits_append (areDigits_padded width number) 0 rest
  have hValue : Nat.ofDigitChars 10 (padded width number) 0 = number := by
    rw [← digitsValue_eq, padded]
    exact (digitsValue_zeros_append _ _).trans (digitsValue_toDigits number)
  rw [length_padded hWidth hFits, hValue] at hTaken
  exact hTaken

theorem takeDigits_two {number : Nat} (hFits : number < 100) (rest : List Char) :
    takeDigits 2 0 (padded 2 number ++ rest) = some (number, rest) :=
  takeDigits_padded (by decide) hFits rest

/-! ## Characters of the clock -/

def isClockChar (c : Char) : Bool :=
  c.isDigit || c == ':' || c == '.'

theorem isClockChar_of_mem_padded {width number : Nat} {c : Char}
    (hMem : c ∈ padded width number) : isClockChar c = true := by
  simp [isClockChar, areDigits_padded width number c hMem]

theorem isClockChar_of_mem_fractionChars {microsecond : Nat} {c : Char}
    (hMem : c ∈ fractionChars microsecond) : isClockChar c = true := by
  unfold fractionChars at hMem
  split at hMem
  · cases hMem
  · rcases List.mem_cons.1 hMem with rfl | hMem
    · decide
    · exact isClockChar_of_mem_padded hMem

theorem isClockChar_of_mem_isoChars {time : TimeOfDay} {c : Char} (hMem : c ∈ time.isoChars) :
    isClockChar c = true := by
  simp only [TimeOfDay.isoChars, List.mem_append, List.mem_cons] at hMem
  rcases hMem with ((hHour | rfl | hMinute) | rfl | hSecond) | hFraction
  · exact isClockChar_of_mem_padded hHour
  · decide
  · exact isClockChar_of_mem_padded hMinute
  · decide
  · exact isClockChar_of_mem_padded hSecond
  · exact isClockChar_of_mem_fractionChars hFraction

theorem isClockChar_of_mem_offset {offset : Offset} {c : Char} (hMem : c ∈ offset.isoChars) :
    c = '-' ∨ c = '+' ∨ isClockChar c = true := by
  simp only [Offset.isoChars, List.mem_append, List.mem_cons] at hMem
  rcases hMem with ((hSign | hHour) | rfl | hMinute) | hTail
  · split at hSign
    · exact .inl hSign
    · exact .inr (.inl hSign)
  · exact .inr (.inr (isClockChar_of_mem_padded hHour))
  · exact .inr (.inr (by decide))
  · exact .inr (.inr (isClockChar_of_mem_padded hMinute))
  · split at hTail
    · cases hTail
    · rcases List.mem_append.1 hTail with hSecond | hFraction
      · rcases List.mem_cons.1 hSecond with rfl | hSecond
        · exact .inr (.inr (by decide))
        · exact .inr (.inr (isClockChar_of_mem_padded hSecond))
      · exact .inr (.inr (isClockChar_of_mem_fractionChars hFraction))

theorem not_startsOffset_of_isClockChar {c : Char} (hClock : isClockChar c = true) :
    (!(c == '+' || c == '-' || c == 'Z')) = true := by
  simp only [Bool.not_eq_true', Bool.or_eq_false_iff, beq_eq_false_iff_ne]
  refine ⟨⟨?_, ?_⟩, ?_⟩ <;> rintro rfl <;> exact absurd hClock (by decide)

theorem isBlank_of_isClockChar {c : Char} (hClock : isClockChar c = true) :
    Text.isBlank c = false := by
  simp only [isClockChar, Bool.or_eq_true, beq_iff_eq] at hClock
  rcases hClock with (hDigit | rfl) | rfl
  · exact Text.isBlank_of_isDigit hDigit
  · decide
  · decide

/-! ## The time of day -/

theorem fraction?_padded {hour minute second microsecond : Nat} (hFits : microsecond < 1000000) :
    fraction? hour minute second (padded 6 microsecond) =
      some ⟨hour, minute, second, microsecond, false⟩ := by
  have hLength : (padded 6 microsecond).length = 6 := length_padded (by decide) hFits
  have hTaken : takeDigits 6 0 (padded 6 microsecond) = some (microsecond, []) := by
    simpa using takeDigits_padded (show 0 < 6 by decide) hFits []
  simp [fraction?, hLength, hTaken, isLeftover]

theorem clockStep_colon {text : List Char} (hSome : text ≠ []) :
    clockStep true (':' :: text) = .next text := by
  obtain ⟨c, rest, rfl⟩ := List.exists_cons_of_ne_nil hSome
  simp [clockStep]

theorem clockStep_point {text : List Char} (hSome : text ≠ []) :
    clockStep true ('.' :: text) = .fraction text := by
  obtain ⟨c, rest, rfl⟩ := List.exists_cons_of_ne_nil hSome
  simp [clockStep]

section

variable {hour minute second microsecond : Nat} (hHour : hour < 100) (hMinute : minute < 100)
include hHour hMinute

theorem clock?_minutes :
    clock? (padded 2 hour ++ ':' :: padded 2 minute) = some ⟨hour, minute, 0, 0, false⟩ := by
  have hTaken := takeDigits_two hMinute []
  rw [List.append_nil] at hTaken
  simp only [clock?, takeDigits_two hHour, Option.bind_some, List.head?_cons, beq_self_eq_true,
    clockStep_colon (padded_ne_nil 2 minute), hTaken]
  rfl

theorem clock?_seconds (hSecond : second < 100) (hMicrosecond : microsecond < 1000000) :
    clock? (padded 2 hour ++ ':' :: (padded 2 minute ++ ':' ::
        (padded 2 second ++ fractionChars microsecond))) =
      some ⟨hour, minute, second, microsecond, false⟩ := by
  have hMinutes :
      padded 2 minute ++ ':' :: (padded 2 second ++ fractionChars microsecond) ≠ [] := by
    simp
  have hSeconds : padded 2 second ++ fractionChars microsecond ≠ [] := by
    simp [padded_ne_nil]
  simp only [clock?, takeDigits_two hHour, takeDigits_two hMinute, takeDigits_two hSecond,
    Option.bind_some, List.head?_cons, beq_self_eq_true, clockStep_colon hMinutes,
    clockStep_colon hSeconds]
  by_cases hZero : microsecond = 0
  · simp [fractionChars, hZero, clockStep]
  · simp only [fractionChars, hZero, if_false, clockStep_point (padded_ne_nil 6 microsecond),
      fraction?_padded hMicrosecond]

end

theorem clock?_isoChars (time : TimeOfDay) :
    clock? time.isoChars = some ⟨time.hour, time.minute, time.second, time.microsecond, false⟩ := by
  obtain ⟨hHour, hMinute, hSecond, hMicrosecond⟩ := time.inRange
  simpa [TimeOfDay.isoChars] using
    clock?_seconds (by omega) (by omega) (by omega) hMicrosecond

/-! ## Offsets -/

def offsetNumbers (size : Nat) : ClockNumbers :=
  ⟨size / 3600000000, size / 60000000 % 60, size / 1000000 % 60, size % 1000000, false⟩

theorem offsetSize_offsetNumbers (size : Nat) :
    offsetSize (offsetNumbers size) = if size < 1000000 then 0 else (size : Int) := by
  have hSeconds : (size / 3600000000 * 60 + size / 60000000 % 60) * 60 + size / 1000000 % 60 =
      size / 1000000 := by
    omega
  simp only [offsetSize, offsetNumbers, hSeconds]
  by_cases hSmall : size < 1000000
  · rw [if_pos hSmall, if_pos (by omega)]
  · rw [if_neg hSmall, if_neg (by omega)]
    omega

theorem exists_isoChars_offset (offset : Offset) :
    ∃ clock, offset.isoChars = (if offset.microseconds < 0 then '-' else '+') :: clock ∧
      clock? clock = some (offsetNumbers offset.microseconds.natAbs) := by
  obtain ⟨microseconds, hRange⟩ := offset
  simp only [Offset.isoChars, offsetNumbers]
  have hSize : microseconds.natAbs < 86400000000 := by omega
  generalize microseconds.natAbs = size at hSize ⊢
  have hHour : size / 3600000000 < 100 := by omega
  have hMinute : size / 60000000 % 60 < 100 := by omega
  by_cases hWhole : size % 1000000 = 0 ∧ size / 1000000 % 60 = 0
  · rw [if_pos hWhole, hWhole.1, hWhole.2]
    exact ⟨_, by simp, clock?_minutes hHour hMinute⟩
  · rw [if_neg hWhole]
    exact ⟨_, by simp, clock?_seconds hHour hMinute (by omega) (by omega)⟩

theorem clockAndOffset?_isoChars (time : TimeOfDay) (offset : Option Offset) :
    clockAndOffset? (time.isoChars ++ (offset.map Offset.isoChars).getD []) =
      some (⟨time.hour, time.minute, time.second, time.microsecond, false⟩,
        offset.map fun offset => offset.asRead.microseconds) := by
  have hInside : ∀ c ∈ time.isoChars, (!(c == '+' || c == '-' || c == 'Z')) = true :=
    fun _ hMem => not_startsOffset_of_isClockChar (isClockChar_of_mem_isoChars hMem)
  cases offset with
  | none =>
      have hSplit := span_append hInside [] (by simp)
      simp only [clockAndOffset?, Option.map_none, Option.getD_none, hSplit, clock?_isoChars,
        Option.bind_some]
      rfl
  | some offset =>
      obtain ⟨clock, hChars, hClock⟩ := exists_isoChars_offset offset
      have hSplit := span_append hInside offset.isoChars (by
        rw [hChars]
        split <;> simp)
      have hSize : (if offset.microseconds < 0
          then -offsetSize (offsetNumbers offset.microseconds.natAbs)
          else offsetSize (offsetNumbers offset.microseconds.natAbs)) =
            offset.asRead.microseconds := by
        rw [offsetSize_offsetNumbers, Offset.microseconds_asRead]
        omega
      simp only [clockAndOffset?, Option.map_some, Option.getD_some, hSplit, clock?_isoChars,
        Option.bind_some]
      rw [← hSize, hChars]
      by_cases hNegative : offset.microseconds < 0
      · simp [hNegative, hClock, offsetNumbers]
      · simp [hNegative, hClock, offsetNumbers]

/-! ## The date -/

theorem exists_padded_eq_cons (width number : Nat) :
    ∃ c rest, padded width number = c :: rest ∧ c.isDigit = true := by
  obtain ⟨c, rest, hPadded⟩ := List.exists_cons_of_ne_nil (padded_ne_nil width number)
  exact ⟨c, rest, hPadded, areDigits_padded width number c (by simp [hPadded])⟩

theorem fits_date (date : Date) :
    date.year < 10 ^ 4 ∧ date.month < 10 ^ 2 ∧ date.day < 10 ^ 2 := by
  obtain ⟨⟨-, hYear⟩, ⟨-, hMonth⟩, -, hDay⟩ := date.inRange
  have hMost : daysInMonth date.year date.month ≤ 31 := by
    unfold daysInMonth
    split
    · split <;> decide
    all_goals decide
  omega

theorem length_isoChars_date (date : Date) : date.isoChars.length = 10 := by
  obtain ⟨hYear, hMonth, hDay⟩ := fits_date date
  simp [Date.isoChars, length_padded (by decide) hYear, length_padded (by decide) hMonth,
    length_padded (by decide) hDay]

theorem dateLength?_isoChars (date : Date) (tail : List Char) :
    dateLength? (date.isoChars ++ tail) = some 10 := by
  have hLength : 10 ≤ (date.isoChars ++ tail).length := by
    simp [length_isoChars_date]
  have hYear := length_padded (by decide) (fits_date date).1
  obtain ⟨c, rest, hMonth, hDigit⟩ := exists_padded_eq_cons 2 date.month
  have hHyphen : (date.isoChars ++ tail)[4]? = some '-' := by
    simp [Date.isoChars, hYear]
  have hNoWeek : (date.isoChars ++ tail)[5]? ≠ some 'W' := by
    have hNext : (date.isoChars ++ tail)[5]? = some c := by
      simp [Date.isoChars, hYear, hMonth, List.getElem?_append_right]
    rw [hNext]
    rintro ⟨⟩
    exact absurd hDigit (by decide)
  simp only [dateLength?]
  rw [if_neg (by omega), if_neg (by omega), if_pos hHyphen, if_neg hNoWeek]

theorem dateNumbers?_isoChars (date : Date) :
    dateNumbers? date.isoChars = some (date.year, date.month, date.day) := by
  obtain ⟨hYear, hMonth, hDay⟩ := fits_date date
  have hFirst := takeDigits_padded (by decide) hYear
    ('-' :: (padded 2 date.month ++ '-' :: padded 2 date.day))
  have hNext := takeDigits_padded (by decide) hMonth ('-' :: padded 2 date.day)
  have hLast := takeDigits_padded (by decide) hDay []
  obtain ⟨c, rest, hPadded, hDigit⟩ := exists_padded_eq_cons 2 date.month
  have hNoWeek : c ≠ 'W' := by
    rintro rfl
    exact absurd hDigit (by decide)
  have hChars : date.isoChars =
      padded 4 date.year ++ '-' :: (padded 2 date.month ++ '-' :: padded 2 date.day) := by
    simp [Date.isoChars]
  rw [List.append_nil] at hLast
  simp only [dateNumbers?, hChars, hFirst, List.head?_cons, List.drop_one, List.tail_cons]
  rw [hPadded, List.cons_append] at hNext ⊢
  simp [hNoWeek, hNext, hLast, dropHyphen?]

/-! ## Both -/

theorem ofNumbers_date (date : Date) :
    Date.ofNumbers date.year date.month date.day = .ok date := by
  obtain ⟨hYear, hMonth, hDay⟩ := date.inRange
  rw [Date.ofNumbers, dif_pos hYear, dif_pos hMonth, dif_pos hDay]

theorem ofNumbers_time (time : TimeOfDay) :
    TimeOfDay.ofNumbers time.hour time.minute time.second time.microsecond = .ok time := by
  obtain ⟨hour, minute, second, microsecond, hHour, hMinute, hSecond, hMicrosecond⟩ := time
  rw [TimeOfDay.ofNumbers, dif_pos hHour, dif_pos hMinute, dif_pos hSecond]
  simp [Nat.mod_eq_of_lt hMicrosecond]

theorem mapM_ofMicroseconds (offset : Option Offset) :
    (offset.map Offset.microseconds).mapM Offset.ofMicroseconds = .ok offset := by
  cases offset with
  | none => rfl
  | some offset =>
      have hOffset : Offset.ofMicroseconds offset.microseconds = .ok offset := by
        rw [Offset.ofMicroseconds, dif_pos offset.inRange]
      simp [hOffset]

/-- A written date is read as its first instant. -/
theorem readIso_isoChars_date (date : Date) :
    readIso date.isoChars = .ok (DateTime.ofDate date) := by
  have hLength := dateLength?_isoChars date []
  rw [List.append_nil] at hLength
  have hShort := (length_isoChars_date date).le
  simp only [readIso, hLength, List.take_of_length_le hShort, List.drop_of_length_le hShort,
    dateNumbers?_isoChars, ofNumbers_date]
  rfl

/-- A written point in time is read back, whatever stands between its date and its time. -/
theorem readIso_isoChars (separator : Char) (moment : DateTime) :
    readIso (moment.isoChars separator) = .ok moment.asRead := by
  have hLength := length_isoChars_date moment.date
  have hOffset := mapM_ofMicroseconds (moment.offset.map Offset.asRead)
  rw [Option.map_map] at hOffset
  rw [DateTime.isoChars, List.append_assoc]
  simp only [readIso, dateLength?_isoChars, List.take_left' hLength, List.drop_left' hLength,
    dateNumbers?_isoChars, List.cons_append, clockAndOffset?_isoChars, ofNumbers_date,
    ofNumbers_time]
  rw [← Function.comp_def, hOffset]
  rfl

theorem offsetSize_cases (numbers : ClockNumbers) :
    offsetSize numbers = 0 ∨ 1000000 ≤ offsetSize numbers := by
  simp only [offsetSize]
  by_cases hZero : (numbers.hour * 60 + numbers.minute) * 60 + numbers.second = 0
  · exact .inl (if_pos hZero)
  · rw [if_neg hZero]
    omega

theorem offset_of_clockAndOffset? {text : List Char} {numbers : ClockNumbers} {offset : Option Int}
    (hRead : clockAndOffset? text = some (numbers, offset)) :
    ∀ microseconds ∈ offset, microseconds = 0 ∨ 1000000 ≤ microseconds.natAbs := by
  rintro microseconds rfl
  simp only [clockAndOffset?, Option.bind_eq_some_iff] at hRead
  obtain ⟨clock, -, hRead⟩ := hRead
  split at hRead
  · split at hRead <;> cases hRead
  · split at hRead <;> cases hRead
    exact .inl rfl
  · obtain ⟨found, -, hFound⟩ := Option.bind_eq_some_iff.1 hRead
    split at hFound
    · cases hFound
    · have hSize := offsetSize_cases found
      simp only [Option.some.injEq, Prod.mk.injEq] at hFound
      omega

theorem mem_of_mapM_ofMicroseconds {read : Option Int} {offset : Offset}
    (hOffset : read.mapM Offset.ofMicroseconds = .ok (some offset)) :
    offset.microseconds ∈ read := by
  cases read with
  | none => cases hOffset
  | some microseconds =>
      simp only [Option.mapM_some, Offset.ofMicroseconds] at hOffset
      split at hOffset <;> cases hOffset
      rfl

theorem mapM_of_ofFault {read : Option Int} {date : Except Fault Date}
    {time : Except Fault TimeOfDay} {moment : DateTime}
    (hRead : (IsoFault.ofFault do
      let offset ← read.mapM Offset.ofMicroseconds
      let date ← date
      let time ← time
      return (⟨date, time, offset⟩ : DateTime)) = .ok moment) :
    read.mapM Offset.ofMicroseconds = .ok moment.offset := by
  cases hOffset : read.mapM Offset.ofMicroseconds with
  | error fault =>
      rw [hOffset] at hRead
      cases hRead
  | ok offset =>
      rw [hOffset] at hRead
      cases date with
      | error fault => cases hRead
      | ok date =>
          cases time with
          | error fault => cases hRead
          | ok time =>
              cases hRead
              rfl

theorem asRead_of_readIso {text : List Char} {moment : DateTime}
    (hRead : readIso text = .ok moment) : moment.asRead = moment := by
  -- Nothing but the offset can be lost, and its number is the one that was read.
  rw [DateTime.asRead_eq_iff]
  intro offset hOffset
  unfold readIso at hRead
  dsimp only at hRead
  split at hRead
  · cases hRead
  split at hRead
  · cases hRead
  split at hRead
  · cases hRead
  next clock read hTimed =>
    have hLarge : ∀ microseconds ∈ read, microseconds = 0 ∨ 1000000 ≤ microseconds.natAbs := by
      split at hTimed
      · cases hTimed
        simp
      · exact offset_of_clockAndOffset? hTimed
    have hFound := mapM_of_ofFault hRead
    rw [hOffset] at hFound
    exact hLarge _ (mem_of_mapM_ofMicroseconds hFound)

theorem asRead_of_readIsoPoints {text : Text.Points} {moment : DateTime}
    (hRead : readIsoPoints text = .ok moment) : moment.asRead = moment := by
  unfold readIsoPoints at hRead
  split at hRead
  · exact asRead_of_readIso hRead
  · unfold readIllFormedIso at hRead
    split at hRead
    · cases hRead
    · split at hRead
      · exact asRead_of_readIso hRead
      · cases hRead

/-! ## Blanks -/

theorem head?_isoChars_date (date : Date) (tail : List Char) :
    ∃ c, (date.isoChars ++ tail).head? = some c ∧ c.isDigit = true := by
  obtain ⟨c, rest, hYear, hDigit⟩ := exists_padded_eq_cons 4 date.year
  exact ⟨c, by simp [Date.isoChars, hYear], hDigit⟩

theorem trim_isoText_date (date : Date) : Text.trim date.isoText = date.isoText := by
  have hChars : ∀ c ∈ date.isoChars, Text.isBlank c = false := by
    intro c hMem
    simp only [Date.isoChars, List.mem_append, List.mem_cons] at hMem
    rcases hMem with (hYear | rfl | hMonth) | rfl | hDay
    · exact isBlank_of_isClockChar (isClockChar_of_mem_padded hYear)
    · decide
    · exact isBlank_of_isClockChar (isClockChar_of_mem_padded hMonth)
    · decide
    · exact isBlank_of_isClockChar (isClockChar_of_mem_padded hDay)
  rw [Text.trim, Date.isoText, String.toList_ofList, Text.trimBy_of_forall hChars]

theorem trim_isoText (separator : Char) (moment : DateTime) :
    Text.trim (moment.isoText separator) = moment.isoText separator := by
  have hParts : moment.isoChars separator = moment.date.isoChars ++ separator ::
      (moment.time.isoChars ++ (moment.offset.map Offset.isoChars).getD []) := by
    simp [DateTime.isoChars]
  have hClock : ∀ c ∈ moment.time.isoChars ++ (moment.offset.map Offset.isoChars).getD [],
      Text.isBlank c = false := by
    intro c hMem
    rcases List.mem_append.1 hMem with hTime | hOffset
    · exact isBlank_of_isClockChar (isClockChar_of_mem_isoChars hTime)
    · cases hSome : moment.offset with
      | none => simp [hSome] at hOffset
      | some offset =>
          rw [hSome] at hOffset
          rcases isClockChar_of_mem_offset hOffset with rfl | rfl | hChar
          · decide
          · decide
          · exact isBlank_of_isClockChar hChar
  rw [Text.trim, DateTime.isoText, String.toList_ofList, hParts]
  congr 1
  apply Text.trimBy_of_ends
  · intro c hFirst
    obtain ⟨first, hHead, hDigit⟩ := head?_isoChars_date moment.date
      (separator :: (moment.time.isoChars ++ (moment.offset.map Offset.isoChars).getD []))
    obtain rfl : first = c := Option.some.inj (hHead.symm.trans hFirst)
    exact Text.isBlank_of_isDigit hDigit
  · intro c hLast
    have hSome : moment.time.isoChars ++ (moment.offset.map Offset.isoChars).getD [] ≠ [] := by
      simp [TimeOfDay.isoChars]
    rw [← List.singleton_append, ← List.append_assoc,
      List.getLast?_append, List.getLast?_eq_some_getLast hSome, Option.some_or,
      ← List.getLast?_eq_some_getLast hSome] at hLast
    exact hClock c (List.mem_of_getLast? hLast)

end Calendar

end SqlDialects
