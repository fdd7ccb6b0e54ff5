import SqlDialects.Number.Integer
import SqlDialects.Text.CodePoint

/-!
# Universally unique identifiers

Identifiers of 128 bits.  They are written as five groups of hexadecimal digits
and read from any text that leaves 32 characters when the prefixes, braces and
hyphens are taken away.
-/

namespace SqlDialects

structure Uuid where
  number : Nat
  inRange : number < Nat.pow 2 128
deriving DecidableEq, Repr

namespace Uuid

instance : Inhabited Uuid := ⟨⟨0, by decide⟩⟩

/-! ## Writing -/

def hexDigits (uuid : Uuid) : List Char :=
  Text.hexDigits 32 uuid.number

def toChars (uuid : Uuid) : List Char :=
  let digits := uuid.hexDigits
  digits.take 8 ++ '-' :: (digits.drop 8).take 4 ++ '-' :: (digits.drop 12).take 4
    ++ '-' :: (digits.drop 16).take 4 ++ '-' :: digits.drop 20

def toText (uuid : Uuid) : String :=
  String.ofList uuid.toChars

/-! ## Reading -/

section

variable {α : Type} [DecidableEq α]

def removeWord (word : List α) : (fuel : Nat) → List α → List α
  | 0, text => text
  | _, [] => []
  | fuel + 1, c :: rest =>
    if word.isPrefixOf (c :: rest) then removeWord word fuel ((c :: rest).drop word.length)
    else c :: removeWord word fuel rest

def withoutWord (word text : List α) : List α :=
  removeWord word (text.length + 1) text

/-- The characters of a text that have to be the digits of an identifier; a text may be
made of more than characters. -/
def payloadBy (ofChar : Char → α) (text : List α) : List α :=
  let unprefixed :=
    withoutWord ("uuid:".toList.map ofChar) (withoutWord ("urn:".toList.map ofChar) text)
  let isBrace (c : α) : Bool := c == ofChar '\x7b' || c == ofChar '\x7d'
  (Text.trimBy isBrace unprefixed).filter (· != ofChar '-')

end

def payload (text : List Char) : List Char :=
  payloadBy id text

inductive Fault where
  | malformed
  | badDigits (digits : Text.Points) (fault : Number.IntegerFault)
  | outOfRange
deriving DecidableEq, Repr

def read (text : String) : Except Fault Uuid :=
  let digits := payload text.toList
  if digits.length ≠ 32 then .error .malformed
  else
    match Number.readInteger .sixteen (String.ofList digits) with
    | .error fault => .error (.badDigits (.ofString (String.ofList digits)) fault)
    | .ok number =>
      if h : 0 ≤ number ∧ number.toNat < Nat.pow 2 128 then .ok ⟨number.toNat, h.2⟩
      else .error .outOfRange

def illFormedFault (text : Text.IllFormed) : Fault :=
  let digits := payloadBy .char text.toList
  if digits.length ≠ 32 then .malformed else .badDigits ⟨digits⟩ .malformed

def Fault.message : Fault → String
  | .malformed => "badly formed hexadecimal UUID string"
  | .badDigits digits fault => fault.message .sixteen (Text.quotedPoints digits)
  | .outOfRange => "int is out of range (need a 128-bit value)"

end Uuid

end SqlDialects
