import SqlDialects.Calendar.Date

/-!
# Points in time

A date with a time of day in microseconds and, if it is known, the offset of
that time from universal time.
-/

namespace SqlDialects

structure TimeOfDay where
  hour : Nat
  minute : Nat
  second : Nat
  microsecond : Nat
  inRange : hour < 24 ∧ minute < 60 ∧ second < 60 ∧ microsecond < 1000000
deriving DecidableEq, Repr

namespace TimeOfDay

def midnight : TimeOfDay := ⟨0, 0, 0, 0, by decide⟩

instance : Inhabited TimeOfDay := ⟨midnight⟩

def ofNumbers (hour minute second microsecond : Nat) : Except Calendar.Fault TimeOfDay :=
  if hHour : hour < 24 then
    if hMinute : minute < 60 then
      if hSecond : second < 60 then
        .ok ⟨hour, minute, second, microsecond % 1000000,
          hHour, hMinute, hSecond, Nat.mod_lt _ (by decide)⟩
      else .error .second
    else .error .minute
  else .error .hour

end TimeOfDay

structure Offset where
  microseconds : Int
  inRange : -86400000000 < microseconds ∧ microseconds < 86400000000
deriving DecidableEq, Repr

def Offset.ofMicroseconds (microseconds : Int) : Except Calendar.Fault Offset :=
  if h : -86400000000 < microseconds ∧ microseconds < 86400000000 then .ok ⟨microseconds, h⟩
  else .error (.offset microseconds)

structure DateTime where
  date : Date
  time : TimeOfDay
  offset : Option Offset
deriving DecidableEq, Repr, Inhabited

def DateTime.ofDate (date : Date) : DateTime :=
  ⟨date, .midnight, none⟩

/-! ## Writing -/

open Calendar

def fractionChars (microsecond : Nat) : List Char :=
  if microsecond = 0 then [] else '.' :: padded 6 microsecond

def TimeOfDay.isoChars (time : TimeOfDay) : List Char :=
  padded 2 time.hour ++ ':' :: padded 2 time.minute ++ ':' :: padded 2 time.second
    ++ fractionChars time.microsecond

/-- Seconds and their fraction are left out of an offset when they are zero. -/
def Offset.isoChars (offset : Offset) : List Char :=
  let size := offset.microseconds.natAbs
  let microsecond := size % 1000000
  let second := size / 1000000 % 60
  let tail :=
    if microsecond = 0 ∧ second = 0 then []
    else ':' :: padded 2 second ++ fractionChars microsecond
  (if offset.microseconds < 0 then '-' else '+') :: padded 2 (size / 3600000000)
    ++ ':' :: padded 2 (size / 60000000 % 60) ++ tail

def DateTime.isoChars (separator : Char) (moment : DateTime) : List Char :=
  moment.date.isoChars ++ separator :: moment.time.isoChars
    ++ (moment.offset.map Offset.isoChars).getD []

def DateTime.isoText (separator : Char) (moment : DateTime) : String :=
  String.ofList (moment.isoChars separator)

/-! ## Messages -/

def spanText (microseconds : Int) : String :=
  let days := Int.fdiv microseconds 86400000000
  let rest := (microseconds - days * 86400000000).toNat
  let parts :=
    (if days = 0 then [] else ["days=" ++ Number.integerText days])
      ++ (if rest / 1000000 = 0 then [] else ["seconds=" ++ Number.natText (rest / 1000000)])
      ++ (if rest % 1000000 = 0 then [] else ["microseconds=" ++ Number.natText (rest % 1000000)])
  "datetime.timedelta(" ++ (if parts.isEmpty then "0" else ", ".intercalate parts) ++ ")"

def Calendar.Fault.message : Calendar.Fault → String
  | .year value => "year " ++ Number.natText value ++ " is out of range"
  | .month => "month must be in 1..12"
  | .day => "day is out of range for month"
  | .hour => "hour must be in 0..23"
  | .minute => "minute must be in 0..59"
  | .second => "second must be in 0..59"
  | .offset microseconds =>
    "offset must be a timedelta strictly between -timedelta(hours=24) and timedelta(hours=24), not "
      ++ spanText microseconds ++ "."
  | .afterLastYear => "date value out of range"

end SqlDialects
