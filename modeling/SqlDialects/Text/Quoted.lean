import SqlDialects.Text.Character

/-!
# Quoted text

How a text or a row of bytes is shown inside a message: between single quotes,
or between double quotes when it holds a single quote and no double one, with
every character that has no glyph written as an escape.
-/

namespace SqlDialects.Text

def quoteFor (text : List Char) : Char :=
  if text.contains '\'' && !text.contains '"' then '"' else '\''

def hexDigits (width number : Nat) : List Char :=
  let digits := Nat.toDigits 16 number
  List.replicate (width - digits.length) '0' ++ digits

def commonEscape? (quote c : Char) : Option (List Char) :=
  if c == quote || c == '\\' then some ['\\', c]
  else if c == '\n' then some ['\\', 'n']
  else if c == '\r' then some ['\\', 'r']
  else if c == '\t' then some ['\\', 't']
  else none

def quoteChar (quote c : Char) : List Char :=
  match commonEscape? quote c with
  | some escape => escape
  | none =>
    if isPrintable c then [c]
    else if c.toNat < 0x100 then '\\' :: 'x' :: hexDigits 2 c.toNat
    else if c.toNat < 0x10000 then '\\' :: 'u' :: hexDigits 4 c.toNat
    else '\\' :: 'U' :: hexDigits 8 c.toNat

def quoted (text : String) : String :=
  let chars := text.toList
  let quote := quoteFor chars
  String.ofList (quote :: chars.flatMap (quoteChar quote) ++ [quote])

def quoteByte (quote : Char) (byte : UInt8) : List Char :=
  let c := Char.ofNat byte.toNat
  match commonEscape? quote c with
  | some escape => escape
  | none =>
    if decide (32 ≤ byte.toNat) && decide (byte.toNat < 127) then [c]
    else '\\' :: 'x' :: hexDigits 2 byte.toNat

def quoteForBytes (bytes : List UInt8) : Char :=
  quoteFor (bytes.map fun byte => Char.ofNat byte.toNat)

def quotedBytes (bytes : List UInt8) : String :=
  let quote := quoteForBytes bytes
  String.ofList ('b' :: quote :: bytes.flatMap (quoteByte quote) ++ [quote])

def quotedBuffer (bytes : List UInt8) : String :=
  let quote := quoteForBytes bytes
  String.ofList ('b' :: quote :: bytes.flatMap (quoteByte '\'') ++ [quote])

end SqlDialects.Text
