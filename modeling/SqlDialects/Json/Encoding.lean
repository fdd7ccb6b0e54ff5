import SqlDialects.Text.CodePoint

/-!
# The encoding of JSON

A JSON text that is given as bytes is in UTF-8, UTF-16 or UTF-32.  A byte order mark before
the text tells which; without one the first two characters are ASCII, so that the null bytes
among the first bytes tell it.  Halves of surrogate pairs are kept.
-/

namespace SqlDialects.Json

open Text (CodePoint Points)

inductive ByteOrder where
  | little
  | big
deriving DecidableEq, Repr

inductive Encoding where
  | utf8
  | utf16 (order : ByteOrder)
  | utf32 (order : ByteOrder)
deriving DecidableEq, Repr

def Encoding.ofNulls : List UInt8 → Encoding
  | a :: b :: c :: d :: _ =>
    if a = 0 then if b = 0 then .utf32 .big else .utf16 .big
    else if b = 0 then if c = 0 ∧ d = 0 then .utf32 .little else .utf16 .little
    else .utf8
  | [a, b] => if a = 0 then .utf16 .big else if b = 0 then .utf16 .little else .utf8
  | _ => .utf8

/-- The encoding of a text and its bytes without a byte order mark. -/
def Encoding.detect : List UInt8 → Encoding × List UInt8
  | 0x00 :: 0x00 :: 0xFE :: 0xFF :: rest => (.utf32 .big, rest)
  | 0xFF :: 0xFE :: 0x00 :: 0x00 :: rest => (.utf32 .little, rest)
  | 0xFE :: 0xFF :: rest => (.utf16 .big, rest)
  | 0xFF :: 0xFE :: rest => (.utf16 .little, rest)
  | 0xEF :: 0xBB :: 0xBF :: rest => (.utf8, rest)
  | bytes => (ofNulls bytes, bytes)

def units? (order : ByteOrder) (width : Nat) :
    (fuel : Nat) → (read : List Nat) → List UInt8 → Option (List Nat)
  | 0, read, rest => if rest.isEmpty then some read.reverse else none
  | fuel + 1, read, rest =>
    if rest.isEmpty then some read.reverse
    else
      let group := rest.take width
      if group.length < width then none
      else
        let digits := if order = .big then group else group.reverse
        let unit := digits.foldl (fun unit byte => unit * 256 + byte.toNat) 0
        units? order width fuel (unit :: read) (rest.drop width)

def pointsOfUtf16 (read : List CodePoint) : List Nat → List CodePoint
  | [] => read.reverse
  | [unit] => (CodePoint.ofNat unit :: read).reverse
  | high :: low :: rest =>
    if 0xD800 ≤ high ∧ high < 0xDC00 ∧ 0xDC00 ≤ low ∧ low < 0xE000 then
      pointsOfUtf16 (.ofPair high low :: read) rest
    else pointsOfUtf16 (.ofNat high :: read) (low :: rest)

def pointOfUtf32? (unit : Nat) : Option CodePoint :=
  if unit < 0x110000 then some (.ofNat unit) else none

def decode? (bytes : List UInt8) : Option Points :=
  match Encoding.detect bytes with
  | (.utf8, bytes) => (Text.decodePoints bytes).toOption
  | (.utf16 order, bytes) =>
    (units? order 2 bytes.length [] bytes).map fun units => ⟨pointsOfUtf16 [] units⟩
  | (.utf32 order, bytes) => do
    let units ← units? order 4 bytes.length [] bytes
    return ⟨← units.mapM pointOfUtf32?⟩

end SqlDialects.Json
