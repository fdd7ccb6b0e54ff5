/-!
# Bytes of a text

The UTF-8 form of a text, and the reading of bytes as UTF-8 with the place and
the cause of the first fault.
-/

namespace SqlDialects.Text

def encodeUtf8 (text : String) : List UInt8 :=
  text.toUTF8.toList

inductive Utf8Fault where
  | invalidStartByte
  | invalidContinuationByte
  | unexpectedEnd
deriving DecidableEq, Repr

/-- A fault covers the bytes from `start` to `stop`, the latter excluded. -/
structure Utf8Error where
  fault : Utf8Fault
  start : Nat
  stop : Nat
deriving DecidableEq, Repr

/-- The number of continuation bytes that a lead byte announces, its payload
and the range that the first continuation byte has to lie in. -/
def leadByte? (byte : UInt8) : Option (Nat × Nat × Nat × Nat) :=
  let b := byte.toNat
  if 0xC2 ≤ b ∧ b ≤ 0xDF then some (1, b - 0xC0, 0x80, 0xBF)
  else if b = 0xE0 then some (2, 0, 0xA0, 0xBF)
  else if b = 0xED then some (2, 0xD, 0x80, 0x9F)
  else if 0xE1 ≤ b ∧ b ≤ 0xEF then some (2, b - 0xE0, 0x80, 0xBF)
  else if b = 0xF0 then some (3, 0, 0x90, 0xBF)
  else if 0xF1 ≤ b ∧ b ≤ 0xF3 then some (3, b - 0xF0, 0x80, 0xBF)
  else if b = 0xF4 then some (3, 4, 0x80, 0x8F)
  else none

def continuation (start position : Nat) :
    (remaining payload low high : Nat) → List UInt8 → Except Utf8Error (Nat × List UInt8)
  | 0, payload, _, _, rest => .ok (payload, rest)
  | _ + 1, _, _, _, [] => .error ⟨.unexpectedEnd, start, position⟩
  | remaining + 1, payload, low, high, byte :: rest =>
    if low ≤ byte.toNat ∧ byte.toNat ≤ high then
      continuation start (position + 1) remaining (payload * 64 + (byte.toNat - 0x80)) 0x80 0xBF
        rest
    else .error ⟨.invalidContinuationByte, start, position⟩

def decodeUtf8From (fuel position : Nat) (bytes : List UInt8) (read : List Char) :
    Except Utf8Error (List Char) :=
  match fuel, bytes with
  | 0, _ => .ok read.reverse
  | _, [] => .ok read.reverse
  | fuel + 1, byte :: rest =>
    if byte.toNat < 0x80 then
      decodeUtf8From fuel (position + 1) rest (Char.ofNat byte.toNat :: read)
    else match leadByte? byte with
      | none => .error ⟨.invalidStartByte, position, position + 1⟩
      | some (count, payload, low, high) =>
        match continuation position (position + 1) count payload low high rest with
        | .error fault => .error fault
        | .ok (code, rest) =>
          decodeUtf8From fuel (position + count + 1) rest (Char.ofNat code :: read)

def decodeUtf8 (bytes : List UInt8) : Except Utf8Error String :=
  (decodeUtf8From bytes.length 0 bytes []).map String.ofList

def decodeUtf8Leniently : (fuel : Nat) → List UInt8 → String
  | 0, _ => ""
  | fuel + 1, bytes =>
    match decodeUtf8 bytes with
    | .ok text => text
    | .error error =>
      ((decodeUtf8 (bytes.take error.start)).toOption.getD "").push '\uFFFD'
        ++ decodeUtf8Leniently fuel (bytes.drop error.stop)

def Utf8Fault.reason : Utf8Fault → String
  | .invalidStartByte => "invalid start byte"
  | .invalidContinuationByte => "invalid continuation byte"
  | .unexpectedEnd => "unexpected end of data"

def Utf8Error.message (error : Utf8Error) (bytes : List UInt8) : String :=
  let subject :=
    if error.stop ≤ error.start + 1 then
      s!"byte 0x" ++ String.ofList (hexByte ((bytes[error.start]?).getD 0))
        ++ s!" in position {error.start}"
    else s!"bytes in position {error.start}-{error.stop - 1}"
  "'utf-8' codec can't decode " ++ subject ++ ": " ++ error.fault.reason
where
  hexByte (byte : UInt8) : List Char :=
    let digits := Nat.toDigits 16 byte.toNat
    List.replicate (2 - digits.length) '0' ++ digits

end SqlDialects.Text
