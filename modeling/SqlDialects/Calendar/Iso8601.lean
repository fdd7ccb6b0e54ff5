import SqlDialects.Calendar.DateTime
import SqlDialects.Text.CodePoint

/-!
# Reading ISO 8601

A date is given by year, month and day or by year, week and weekday, with
hyphens throughout or without any.  One character of any kind may follow, then
a time of day and an offset.
-/

namespace SqlDialects.Calendar

inductive IsoFault where
  | malformed
  | outOfRange (fault : Fault)
deriving DecidableEq, Repr

def isDigit (c : Char) : Bool :=
  (Text.asciiDigit? c).isSome

def takeDigits : (count value : Nat) → List Char → Option (Nat × List Char)
  | 0, value, text => some (value, text)
  | _ + 1, _, [] => none
  | count + 1, value, c :: rest =>
    match Text.asciiDigit? c with
    | some digit => takeDigits count (value * 10 + digit) rest
    | none => none

/-! ## The date -/

def dateLength? (text : List Char) : Option Nat :=
  let length := text.length
  if length < 7 then none
  else if length = 7 then some 7
  else if text[4]? = some '-' then
    if text[5]? = some 'W' then
      if text[8]? = some '-' then
        if length = 9 then none
        else if (text[10]?).any isDigit then some 8
        else some 10
      else some 8
    else some 10
  else if text[4]? = some 'W' then
    let digitsEnd := 7 + ((text.drop 7).takeWhile isDigit).length
    if digitsEnd < 9 then some digitsEnd
    else if digitsEnd % 2 = 0 then some 7
    else some 8
  else some 8

def dropHyphen? (expected : Bool) (text : List Char) : Option (List Char) :=
  if expected then
    match text with
    | '-' :: rest => some rest
    | _ => none
  else some text

def dateNumbers? (text : List Char) : Option (Nat × Nat × Nat) :=
  match takeDigits 4 0 text with
  | none => none
  | some (year, rest) =>
    let hyphens := rest.head? == some '-'
    match if hyphens then rest.drop 1 else rest with
    | 'W' :: rest =>
      match takeDigits 2 0 rest with
      | none => none
      | some (week, []) => (dayOfWeek? year week 1).map ofDayNumber
      | some (week, rest) =>
        (dropHyphen? hyphens rest).bind fun rest =>
          (takeDigits 1 0 rest).bind fun (weekday, _) =>
            (dayOfWeek? year week weekday).map ofDayNumber
    | rest =>
      (takeDigits 2 0 rest).bind fun (month, rest) =>
        (dropHyphen? hyphens rest).bind fun rest =>
          (takeDigits 2 0 rest).map fun (day, _) => (year, month, day)

/-! ## The time of day -/

structure ClockNumbers where
  hour : Nat
  minute : Nat
  second : Nat
  microsecond : Nat
  leftover : Bool
deriving DecidableEq, Repr

def isLeftover (rest : List Char) : Bool :=
  match rest with
  | [] => false
  | c :: _ => c != '\x00'

def fraction? (hour minute second : Nat) (text : List Char) : Option ClockNumbers :=
  let count := min 6 text.length
  (takeDigits count 0 text).map fun (value, rest) =>
    ⟨hour, minute, second, value * Nat.pow 10 (6 - count), isLeftover (rest.dropWhile isDigit)⟩

inductive ClockStep where
  | finished (leftover : Bool)
  | next (rest : List Char)
  | fraction (rest : List Char)
  | malformed

/-- Colons separate the numbers of the clock throughout or nowhere.  A single
ASCII character may be left over. -/
def clockStep (colons : Bool) : List Char → ClockStep
  | [] => .finished false
  | [c] => if c.toNat < 128 then .finished (isLeftover [c]) else .malformed
  | c :: rest =>
    if colons && c == ':' then .next rest
    else if c == '.' || c == ',' then .fraction rest
    else if colons then .malformed
    else .next (c :: rest)

def clock? (text : List Char) : Option ClockNumbers :=
  (takeDigits 2 0 text).bind fun (hour, rest) =>
    let colons := rest.head? == some ':'
    match clockStep colons rest with
    | .finished leftover => some ⟨hour, 0, 0, 0, leftover⟩
    | .fraction rest => fraction? hour 0 0 rest
    | .malformed => none
    | .next rest =>
      (takeDigits 2 0 rest).bind fun (minute, rest) =>
        match clockStep colons rest with
        | .finished leftover => some ⟨hour, minute, 0, 0, leftover⟩
        | .fraction rest => fraction? hour minute 0 rest
        | .malformed => none
        | .next rest =>
          (takeDigits 2 0 rest).bind fun (second, rest) =>
            match clockStep colons rest with
            | .finished leftover => some ⟨hour, minute, second, 0, leftover⟩
            | .fraction rest => fraction? hour minute second rest
            | .malformed => none
            | .next rest => fraction? hour minute second rest

/-- The microseconds that the numbers of an offset stand for; an offset of less
than a second counts as none. -/
def offsetSize (numbers : ClockNumbers) : Int :=
  let seconds := (numbers.hour * 60 + numbers.minute) * 60 + numbers.second
  if seconds = 0 then 0 else seconds * 1000000 + numbers.microsecond

def clockAndOffset? (text : List Char) : Option (ClockNumbers × Option Int) :=
  let (clock, zone) := text.span fun c => !(c == '+' || c == '-' || c == 'Z')
  (clock? clock).bind fun numbers =>
    match zone with
    | [] => if numbers.leftover then none else some (numbers, none)
    | 'Z' :: rest => if isLeftover rest then none else some (numbers, some 0)
    | sign :: rest =>
      (clock? rest).bind fun offset =>
        if offset.leftover then none
        else
          let size := offsetSize offset
          some (numbers, some (if sign == '-' then -size else size))

/-! ## Both -/

def IsoFault.ofFault {α : Type} (result : Except Fault α) : Except IsoFault α :=
  result.mapError IsoFault.outOfRange

/-- Reads a point in time.  Numbers are checked after the whole text has been
read, the offset before the others. -/
def readIso (text : List Char) : Except IsoFault DateTime :=
  match dateLength? text with
  | none => .error .malformed
  | some length =>
    match dateNumbers? (text.take length) with
    | none => .error .malformed
    | some (year, month, day) =>
      let timed : Option (ClockNumbers × Option Int) :=
        match text.drop length with
        | [] => some (⟨0, 0, 0, 0, false⟩, none)
        | _ :: rest => clockAndOffset? rest
      match timed with
      | none => .error .malformed
      | some (clock, offset) => IsoFault.ofFault do
        let offset ← offset.mapM Offset.ofMicroseconds
        let date ← Date.ofNumbers year month day
        let time ← TimeOfDay.ofNumbers clock.hour clock.minute clock.second clock.microsecond
        return ⟨date, time, offset⟩

def readIsoText (text : String) : Except IsoFault DateTime :=
  readIso text.toList

/-- Reads an ill-formed text.  A half stands for a separator in the three places where one
may stand, the first of which counts. -/
def readIllFormedIso (text : Text.IllFormed) : Except IsoFault DateTime :=
  match [7, 8, 10].find? fun place => (text.toList[place]?).any Text.CodePoint.isHalf with
  | none => .error .malformed
  | some place =>
    match (Text.Points.mk (text.toList.set place (.char 'T'))).content with
    | .inl content => readIsoText content
    | .inr _ => .error .malformed

def readIsoPoints (text : Text.Points) : Except IsoFault DateTime :=
  match text.content with
  | .inl content => readIsoText content
  | .inr content => readIllFormedIso content

def IsoFault.message (fault : IsoFault) (text : Text.Points) : String :=
  match fault with
  | .malformed => "Invalid isoformat string: " ++ Text.quotedPoints text
  | .outOfRange fault => fault.message

end SqlDialects.Calendar
