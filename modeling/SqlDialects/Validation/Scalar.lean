import SqlDialects.Validation.Checked
import SqlDialects.Value.Conversion

/-!
# Checks of single values

Texts, integers, truth values, lists and the entries of objects.  Where the
meaning is plain, a value of another kind is accepted: bytes for a text, a
numeral or a whole number for an integer, a word such as "yes" for a truth value.
A text may be ill-formed unless its length is limited.
-/

namespace SqlDialects.Checked

variable {α : Type}

/-! ## Texts -/

def text (input : Value) : Checked Text.Points :=
  match input with
  | .text value => valid value
  | .illFormed content => valid content.toPoints
  | .bytes value | .buffer value =>
    match Text.decodeUtf8 value with
    | .ok value => valid value
    | .error _ => broken .notUnicode input
  | .archived _ => broken .notUnicode input
  | _ => broken .notText input

def nonemptyText (input : Value) : Checked { value : String // value ≠ "" } :=
  (text input).andThen fun value =>
    match value.content with
    | .inl content =>
      if h : content = "" then broken (.textTooShort 1) input else valid ⟨content, h⟩
    | .inr _ => broken .notUnicode input

def orNull (check : Value → Checked α) (input : Value) : Checked (Option α) :=
  match input with
  | .null => valid none
  | _ => (check input).map some

/-! ## Integers -/

/-- Drops zeros and underscores before the first significant digit of a numeral
that starts with a digit or a minus sign. -/
def dropLeadingZeros? : List Char → Option (List Char)
  | '0' :: rest =>
    match rest.dropWhile fun c => c == '0' || c == '_' with
    | [] => rest.getLast?.elim (some ['0']) fun last => some [last]
    | '.' :: tail => some ('0' :: '.' :: tail)
    | c :: tail => if c.isDigit then some (c :: tail) else none
  | c :: rest => if c.isDigit || c == '-' then some (c :: rest) else none
  | [] => none

def dropZeroFraction (numeral : List Char) : List Char :=
  match numeral.dropWhile (· != '.') with
  | '.' :: '0' :: zeros =>
    if zeros.all (· == '0') then numeral.takeWhile (· != '.') else numeral
  | _ => numeral

def wholeDigits? (digits : List Char) : Option Nat :=
  match Number.digits? .ten digits with
  | some (value, _, []) => some value
  | _ => none

/-- Reads a whole number: an optional sign, digits that may be grouped by single
underscores, and a fraction of zeros. -/
def wholeNumber? (numeral : List Char) : Option Int :=
  let unsigned :=
    match numeral with
    | '+' :: '-' :: _ => none
    | '+' :: rest => some rest
    | _ => some numeral
  (unsigned.bind dropLeadingZeros?).bind fun rest =>
    match dropZeroFraction rest with
    | ['-', '0'] => some 0
    | '-' :: '0' :: _ => none
    | '-' :: digits => (wholeDigits? digits).map fun value => -(value : Int)
    | digits => (wholeDigits? digits).map Int.ofNat

def numeral (content : String) (input : Value) : Checked Int :=
  let trimmed := Text.trimBy Text.isWhiteSpace content.toList
  if Number.maxDigits < (String.ofList trimmed).utf8ByteSize then broken .integerSize input
  else match wholeNumber? trimmed with
    | some value => valid value
    | none => broken .integerNumeral input

def wholeRealBound : Int := 9223372036854775808

def integer (input : Value) : Checked Int :=
  match input with
  | .integer value => valid value
  | .boolean value => valid (if value then 1 else 0)
  | .real value =>
    if value.isNaN || value.isInf then broken .finiteNumber input
    else
      let whole := Number.truncated value
      if Number.nearestReal (decide (whole < 0)) whole.natAbs 0 != value then
        broken .integerFraction input
      else if -wholeRealBound < whole ∧ whole < wholeRealBound then valid whole
      else broken .integerSize input
  | .decimal value =>
    match value.truncatedInteger? with
    | none => broken .finiteNumber input
    | some whole => if value.hasFraction then broken .integerFraction input else valid whole
  | .text value => numeral value input
  | .illFormed _ => broken .notUnicode input
  | .bytes value | .buffer value =>
    match Text.decodeUtf8 value with
    | .ok value => numeral value input
    | .error _ => broken .integerNumeral input
  | .archived _ => broken .integerNumeral input
  | _ => broken .notInteger input

def natural (input : Value) : Checked Nat :=
  (integer input).andThen fun value =>
    if value < 0 then broken (.atLeast 0) input else valid value.toNat

/-! ## Truth values -/

def trueWords : List String := ["1", "on", "t", "true", "y", "yes"]

def falseWords : List String := ["0", "off", "f", "false", "n", "no"]

def booleanWord? (word : String) : Option Bool :=
  let lowered := String.ofList (Number.lowerAscii word.toList)
  if trueWords.contains lowered then some true
  else if falseWords.contains lowered then some false
  else none

def boolean (input : Value) : Checked Bool :=
  let ofWord (word : String) : Checked Bool :=
    match booleanWord? word with
    | some value => valid value
    | none => broken .booleanWord input
  let ofReal (number : Float) : Checked Bool :=
    if number == 0.0 then valid false
    else if number == 1.0 then valid true
    else broken .notBoolean input
  match input with
  | .boolean value => valid value
  | .integer value =>
    if value = 0 then valid false
    else if value = 1 then valid true
    else if -wholeRealBound ≤ value ∧ value < wholeRealBound then broken .booleanWord input
    else broken .notBoolean input
  | .real value => ofReal value
  | .decimal (.finite negative coefficient exponent) =>
    ofReal (Number.nearestReal negative coefficient exponent)
  | .text word => ofWord word
  | .illFormed _ => broken .notUnicode input
  | .bytes word | .buffer word =>
    match Text.decodeUtf8 word with
    | .ok word => ofWord word
    | .error _ => broken .booleanWord input
  | .archived _ => broken .booleanWord input
  | _ => broken .notBoolean input

/-! ## Lists -/

def listOf (check : Value → Checked α) (input : Value) : Checked (List α) :=
  match input with
  | .list items => itemsFrom check 0 items
  | _ => broken .notList input

def nonemptyListOf (check : Value → Checked α) (input : Value) :
    Checked { items : List α // items ≠ [] } :=
  (listOf check input).andThen fun items =>
    match items with
    | [] => broken (.listTooShort 1 0) input
    | first :: rest => valid ⟨first :: rest, List.cons_ne_nil first rest⟩

/-! ## Entries of objects -/

def entry? (names : List String) (owner : Value) : Option (String × Value) :=
  names.findSome? fun name => (owner.get? name).map (name, ·)

def required (names : List String) (check : Value → Checked α) (owner : Value) : Checked α :=
  match entry? names owner with
  | some (name, value) => (check value).under (.key name)
  | none => (broken .missing owner).under (.key (names.headD ""))

def optional (names : List String) (fallback : α) (check : Value → Checked α) (owner : Value) :
    Checked α :=
  match entry? names owner with
  | some (name, value) => (check value).under (.key name)
  | none => valid fallback

def object (form : ObjectForm) (kind : String) (check : Value → Checked α) (input : Value) :
    Checked α :=
  match input with
  | .mapping _ => check input
  | _ => broken (.notObject form kind) input

end SqlDialects.Checked
