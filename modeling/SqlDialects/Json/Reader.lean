import SqlDialects.Number.Real
import SqlDialects.Text.Character
import SqlDialects.Value

/-!
# Reading JSON

The reader gives the place and the reason of the first fault.  Besides JSON it
accepts `NaN`, `Infinity` and `-Infinity`; of two entries with one key the
later counts.  A string may be ill-formed, since it may hold the escape of half
a surrogate pair.
-/

namespace SqlDialects.Json

open Text (CodePoint Points)

inductive Reason where
  | expectingValue
  | expectingName
  | expectingColon
  | expectingComma
  | extraData
  | unterminatedString
  | controlCharacter
  | invalidEscape
  | invalidCodeEscape
  | tooManyDigits
  | tooDeep
deriving DecidableEq, Repr

def Reason.message : Reason → String
  | .expectingValue => "Expecting value"
  | .expectingName => "Expecting property name enclosed in double quotes"
  | .expectingColon => "Expecting ':' delimiter"
  | .expectingComma => "Expecting ',' delimiter"
  | .extraData => "Extra data"
  | .unterminatedString => "Unterminated string starting at"
  | .controlCharacter => "Invalid control character at"
  | .invalidEscape => "Invalid \\escape"
  | .invalidCodeEscape => "Invalid \\uXXXX escape"
  | .tooManyDigits => Number.digitLimitMessage
  | .tooDeep => "Too many lists and objects inside one another"

structure Fault where
  reason : Reason
  position : Nat
deriving DecidableEq, Repr

structure Limits where
  digits : Nat
  depth : Nat
deriving DecidableEq, Repr

structure Input where
  position : Nat
  rest : List CodePoint

namespace Input

def fail {α : Type} (input : Input) (reason : Reason) : Except Fault α :=
  .error ⟨reason, input.position⟩

def advance (input : Input) (count : Nat) : Input :=
  ⟨input.position + count, input.rest.drop count⟩

def isSpace : CodePoint → Bool
  | .char c => c == ' ' || c == '\t' || c == '\n' || c == '\r'
  | .half _ => false

def skipSpaceFrom (position : Nat) : List CodePoint → Input
  | [] => ⟨position, []⟩
  | point :: rest =>
    if isSpace point then skipSpaceFrom (position + 1) rest else ⟨position, point :: rest⟩

def skipSpace (input : Input) : Input :=
  skipSpaceFrom input.position input.rest

def startsWith (input : Input) (word : String) : Bool :=
  (Points.ofString word).toList.isPrefixOf input.rest

end Input

/-! ## Strings -/

def escapedChar? : Char → Option Char
  | '"' => some '"'
  | '\\' => some '\\'
  | '/' => some '/'
  | 'b' => some '\x08'
  | 'f' => some '\x0c'
  | 'n' => some '\n'
  | 'r' => some '\r'
  | 't' => some '\t'
  | _ => none

def codeUnit? : List CodePoint → Option (Nat × List CodePoint)
  | .char a :: .char b :: .char c :: .char d :: rest => do
    let a ← Number.hexDigit? a
    let b ← Number.hexDigit? b
    let c ← Number.hexDigit? c
    let d ← Number.hexDigit? d
    return (((a * 16 + b) * 16 + c) * 16 + d, rest)
  | _ => none

def lowSurrogate? : List CodePoint → Option (Nat × List CodePoint)
  | .char '\\' :: .char 'u' :: rest =>
    (codeUnit? rest).bind fun (unit, rest) =>
      if 0xDC00 ≤ unit ∧ unit < 0xE000 then some (unit, rest) else none
  | _ => none

/-- The code point of a code unit and, where needed, of the unit after it, with
the number of characters that were read beyond the first unit. -/
def unitPoint (unit : Nat) (rest : List CodePoint) : CodePoint × Nat × List CodePoint :=
  if 0xD800 ≤ unit ∧ unit < 0xDC00 then
    match lowSurrogate? rest with
    | some (low, rest) => (.ofPair unit low, 6, rest)
    | none => (.ofNat unit, 0, rest)
  else (.ofNat unit, 0, rest)

def readString (start : Nat) :
    (fuel position : Nat) → (read : List CodePoint) → List CodePoint →
      Except Fault (Points × Input)
  | 0, _, _, _ | _, _, _, [] => .error ⟨.unterminatedString, start⟩
  | fuel + 1, position, read, .half offset :: rest =>
    readString start fuel (position + 1) (.half offset :: read) rest
  | fuel + 1, position, read, .char c :: rest =>
    if c = '"' then .ok (⟨read.reverse⟩, ⟨position + 1, rest⟩)
    else if c = '\\' then
      match rest with
      | [] => .error ⟨.unterminatedString, start⟩
      | .half _ :: _ => .error ⟨.invalidEscape, position⟩
      | .char 'u' :: rest =>
        match codeUnit? rest with
        | none => .error ⟨.invalidCodeEscape, position + 1⟩
        -- An escape at the very end of the text is refused before the missing quote is.
        | some (_, []) => .error ⟨.invalidCodeEscape, position + 1⟩
        | some (unit, rest) =>
          let (point, more, rest) := unitPoint unit rest
          readString start fuel (position + 6 + more) (point :: read) rest
      | .char code :: rest =>
        match escapedChar? code with
        | some c => readString start fuel (position + 2) (.char c :: read) rest
        | none => .error ⟨.invalidEscape, position⟩
    else if c.toNat < 32 then .error ⟨.controlCharacter, position⟩
    else readString start fuel (position + 1) (.char c :: read) rest

def stringAfterQuote (fuel : Nat) (input : Input) : Except Fault (Points × Input) :=
  readString (input.position - 1) fuel input.position [] input.rest

/-! ## Numbers -/

def wholeDigits : List Char → List Char × List Char
  | '0' :: rest => (['0'], rest)
  | text => Number.spanDigits text

def fractionDigits : List Char → List Char × List Char
  | '.' :: rest =>
    let (digits, tail) := Number.spanDigits rest
    if digits.isEmpty then ([], '.' :: rest) else (digits, tail)
  | rest => ([], rest)

def exponentDigits (text : List Char) : Option (Int × Nat) :=
  match text with
  | mark :: rest =>
    if mark == 'e' || mark == 'E' then
      let (negative, unsigned) := Number.splitSign rest
      let isSigned := rest.head?.any fun c => c == '-' || c == '+'
      let (digits, _) := Number.spanDigits unsigned
      if digits.isEmpty then none
      else
        let size : Int := Number.digitsValue digits
        let length := (if isSigned then 2 else 1) + digits.length
        some (if negative then -size else size, length)
    else none
  | [] => none

def isNumeralPoint : CodePoint → Bool
  | .char c => (Text.asciiDigit? c).isSome || "+-.eE".toList.contains c
  | .half _ => false

def readNumber (limits : Limits) (input : Input) : Except Fault (Value × Input) :=
  let numeral := (input.rest.takeWhile isNumeralPoint).map CodePoint.shown
  let (negative, unsigned) :=
    match numeral with
    | '-' :: rest => (true, rest)
    | rest => (false, rest)
  let (whole, afterWhole) := wholeDigits unsigned
  if whole.isEmpty then input.fail .expectingValue
  else
    let (fraction, afterFraction) := fractionDigits afterWhole
    let wholeLength := (if negative then 1 else 0) + whole.length
    let length := if fraction.isEmpty then wholeLength else wholeLength + 1 + fraction.length
    match exponentDigits afterFraction with
    | some (exponent, exponentLength) =>
      let number := Number.nearestReal negative (Number.digitsValue (whole ++ fraction))
        (exponent - fraction.length)
      .ok (.real number, input.advance (length + exponentLength))
    | none =>
      if fraction.isEmpty then
        if limits.digits < whole.length then input.fail .tooManyDigits
        else
          let size : Int := Number.digitsValue whole
          .ok (.integer (if negative then -size else size), input.advance length)
      else
        let number := Number.nearestReal negative (Number.digitsValue (whole ++ fraction))
          (-(fraction.length : Int))
        .ok (.real number, input.advance length)

/-! ## Values -/

def words : List (String × Value) :=
  [("null", .null), ("true", .boolean true), ("false", .boolean false),
    ("NaN", .real (0.0 / 0.0)), ("Infinity", .real (1.0 / 0.0)),
    ("-Infinity", .real (-(1.0 / 0.0)))]

mutual

def readValue (limits : Limits) : (fuel depth : Nat) → Input → Except Fault (Value × Input)
  | 0, _, input => input.fail .expectingValue
  | fuel + 1, depth, input =>
    match input.rest with
    | [] => input.fail .expectingValue
    | .char '"' :: _ =>
      (stringAfterQuote (fuel + 1) (input.advance 1)).map fun (content, input) =>
        (Value.ofPoints content, input)
    | .char '\x7b' :: _ =>
      if limits.depth ≤ depth then input.fail .tooDeep
      else
        let inside := (input.advance 1).skipSpace
        match inside.rest with
        | .char '\x7d' :: _ => .ok (.mapping [], inside.advance 1)
        | _ => readEntries limits fuel (depth + 1) [] inside
    | .char '[' :: _ =>
      if limits.depth ≤ depth then input.fail .tooDeep
      else
        let inside := (input.advance 1).skipSpace
        match inside.rest with
        | .char ']' :: _ => .ok (.list [], inside.advance 1)
        | _ => readItems limits fuel (depth + 1) [] inside
    | _ =>
      match words.find? fun word => input.startsWith word.1 with
      | some (word, value) => .ok (value, input.advance word.length)
      | none => readNumber limits input

def readItems (limits : Limits) :
    (fuel depth : Nat) → (read : List Value) → Input → Except Fault (Value × Input)
  | 0, _, _, input => input.fail .expectingValue
  | fuel + 1, depth, read, input =>
    match readValue limits fuel depth input with
    | .error fault => .error fault
    | .ok (item, after) =>
      let after := after.skipSpace
      match after.rest with
      | .char ']' :: _ => .ok (.list (item :: read).reverse, after.advance 1)
      | .char ',' :: _ => readItems limits fuel depth (item :: read) (after.advance 1).skipSpace
      | _ => after.fail .expectingComma

def readEntries (limits : Limits) :
    (fuel depth : Nat) → (read : List (Value × Value)) → Input → Except Fault (Value × Input)
  | 0, _, _, input => input.fail .expectingValue
  | fuel + 1, depth, read, input =>
    match input.rest with
    | .char '"' :: _ =>
      match stringAfterQuote (fuel + 1) (input.advance 1) with
      | .error fault => .error fault
      | .ok (key, after) =>
        let after := after.skipSpace
        match after.rest with
        | .char ':' :: _ =>
          match readValue limits fuel depth (after.advance 1).skipSpace with
          | .error fault => .error fault
          | .ok (value, after) =>
            let read := Value.insertEntry key value read
            let after := after.skipSpace
            match after.rest with
            | .char '\x7d' :: _ => .ok (.mapping read, after.advance 1)
            | .char ',' :: _ => readEntries limits fuel depth read (after.advance 1).skipSpace
            | _ => after.fail .expectingComma
        | _ => after.fail .expectingColon
    | _ => input.fail .expectingName

end

def read (limits : Limits) (text : Points) : Except Fault Value :=
  match readValue limits (2 * text.length + 2) 0 (Input.skipSpace ⟨0, text.toList⟩) with
  | .error fault => .error fault
  | .ok (value, after) =>
    let after := after.skipSpace
    if after.rest.isEmpty then .ok value else after.fail .extraData

end SqlDialects.Json
