/-!
# Base 64

Reads bytes that are written with 64 characters.  Other characters are skipped;
the last group of four characters has to be complete or filled with equals signs.
-/

namespace SqlDialects.Text

def sextet? (c : Char) : Option Nat :=
  if 'A' ≤ c ∧ c ≤ 'Z' then some (c.toNat - 65)
  else if 'a' ≤ c ∧ c ≤ 'z' then some (c.toNat - 71)
  else if '0' ≤ c ∧ c ≤ '9' then some (c.toNat + 4)
  else if c = '+' then some 62
  else if c = '/' then some 63
  else none

/-- Reads characters after `place` ones of a group, whose bits that are not yet
part of a byte are given, and after some equals signs. -/
def decodeBase64From : (place bits signs : Nat) → (read : List UInt8) → List Char →
    Option (List UInt8)
  | place, _, _, read, [] => if place = 0 then some read.reverse else none
  | place, bits, signs, read, c :: rest =>
    if c = '=' then
      if 2 ≤ place ∧ 4 ≤ place + signs + 1 then some read.reverse
      else decodeBase64From place bits (if 2 ≤ place then signs + 1 else signs) read rest
    else match sextet? c with
      | none => decodeBase64From place bits signs read rest
      | some sextet =>
        match place with
        | 0 => decodeBase64From 1 sextet 0 read rest
        | 1 =>
          decodeBase64From 2 (sextet % 16) 0 (UInt8.ofNat (bits * 4 + sextet / 16) :: read) rest
        | 2 => decodeBase64From 3 (sextet % 4) 0 (UInt8.ofNat (bits * 16 + sextet / 4) :: read) rest
        | _ => decodeBase64From 0 0 0 (UInt8.ofNat (bits * 64 + sextet) :: read) rest

def decodeBase64? (text : List Char) : Option (List UInt8) :=
  decodeBase64From 0 0 0 [] text

end SqlDialects.Text
