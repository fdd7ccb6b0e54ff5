import SqlDialects.Text.Utf8
import SqlDialects.Yaml.Token

/-!
# Anchors, tags and directives

The tokens that start with an ampersand, an asterisk, an exclamation mark or a
percent sign.
-/

namespace SqlDialects.Yaml

open Number

/-! ## Anchors and aliases -/

def isAnchorChar (c : Char) : Bool :=
  let n := c.toNat
  !(c == ',' || c == '[' || c == ']' || c == '\x7b' || c == '\x7d')
    && ((decide (0x21 ≤ n) && decide (n ≤ 0x7E)) || (decide (0xA0 ≤ n) && decide (n ≤ 0xD7FF))
      || (decide (0xE000 ≤ n) && decide (n ≤ 0xFFFD) && n != 0xFEFF) || decide (0x10000 ≤ n))

def isAnchorEnd (c : Option Char) : Bool :=
  isBreakOrEnd c || c.all fun c => isSpace c || "?:,[]\x7b\x7d%@\x60".toList.contains c

def readAnchorName (cursor : Cursor) : Except Fault (String × Cursor) :=
  let (name, after) := cursor.next.takeWhile isAnchorChar
  if name.isEmpty || !isAnchorEnd (after.peek 0) then .error .malformed
  else .ok (String.ofList name, after)

/-! ## Tags -/

def isWordChar (c : Char) : Bool :=
  c.isAlphanum || c == '-' || c == '_'

def readTagHandle (cursor : Cursor) : Except Fault (String × Cursor) :=
  if cursor.peek 0 ≠ some '!' then .error .malformed
  else if cursor.peek 1 = some ' ' then .ok ("!", cursor.next)
  else
    let (name, after) := cursor.next.takeWhile isWordChar
    if after.peek 0 = some '!' then .ok ("!" ++ String.ofList name ++ "!", after.next)
    else .error .malformed

def isTagChar (version : Version) (c : Char) : Bool :=
  c.isAlphanum || "-;/?:@&=+$,_.!~*'()[]".toList.contains c || (version.isModern && c == '#')

def readEscapedBytes : (fuel : Nat) → (read : List UInt8) → Cursor →
    Except Fault (List UInt8 × Cursor)
  | 0, read, cursor => .ok (read.reverse, cursor)
  | fuel + 1, read, cursor =>
    match cursor.rest with
    | '%' :: high :: low :: _ =>
      match hexDigit? high, hexDigit? low with
      | some high, some low =>
        readEscapedBytes fuel (UInt8.ofNat (high * 16 + low) :: read) (cursor.skip 3)
      | _, _ => .error .malformed
    | '%' :: _ => .error .malformed
    | _ => .ok (read.reverse, cursor)

def readTagText (version : Version) : (fuel : Nat) → (read : List Char) → Cursor →
    Except Fault (String × Cursor)
  | 0, read, cursor => .ok (String.ofList read, cursor)
  | fuel + 1, read, cursor =>
    let (part, after) := cursor.takeWhile (isTagChar version)
    if after.peek 0 = some '%' then do
      let (bytes, after) ← readEscapedBytes fuel [] after
      match Text.decodeUtf8 bytes with
      | .ok content => readTagText version fuel (read ++ part ++ content.toList) after
      | .error _ => .error .malformed
    else if read.isEmpty && part.isEmpty then .error .malformed
    else .ok (String.ofList (read ++ part), after)

def hasHandle (rest : List Char) : Bool :=
  (rest.dropWhile fun c => !(c == '!' || isSpaceBreakOrEnd (some c))).head? == some '!'

def readTag (version : Version) (fuel : Nat) (cursor : Cursor) :
    Except Fault (Option String × String × Cursor) := do
  let (short, cursor) :=
    if cursor.peek 1 = some '!' then ("!!", cursor.next) else ("!", cursor)
  let (handle, suffix, after) ←
    if cursor.peek 1 = some '<' then do
      let (suffix, after) ← readTagText version fuel [] (cursor.skip 2)
      if after.peek 0 = some '>' then pure (none, suffix, after.next) else .error .malformed
    else if isGap (cursor.peek 1) then pure (none, short, cursor.next)
    else do
      let (handle, after) ←
        if hasHandle cursor.next.rest then readTagHandle cursor else pure (short, cursor.next)
      let (suffix, after) ← readTagText version fuel [] after
      pure (some handle, suffix, after)
  if isSpaceBreakOrEnd (after.peek 0) then return (handle, suffix, after)
  else .error .malformed

/-! ## Directives -/

def isDirectiveChar (c : Char) : Bool :=
  isWordChar c || c == ':' || c == '.'

def readVersionNumber (cursor : Cursor) : Except Fault (Nat × Cursor) :=
  let (digits, after) := cursor.takeWhile Char.isDigit
  match digits? .ten digits with
  | some (value, _, []) => .ok (value, after)
  | _ => .error .malformed

def readVersion (cursor : Cursor) : Except Fault (Version × Cursor) := do
  let (major, cursor) ← readVersionNumber cursor
  if cursor.peek 0 ≠ some '.' then .error .malformed
  else
    let (minor, cursor) ← readVersionNumber cursor.next
    if isSpaceBreakOrEnd (cursor.peek 0) then return (⟨major, minor⟩, cursor)
    else .error .malformed

def skipSpaces (cursor : Cursor) : Cursor :=
  cursor.skipWhile (· == ' ')

def skipIgnoredLine (cursor : Cursor) : Except Fault Cursor :=
  let cursor := skipSpaces cursor
  let cursor :=
    if cursor.peek 0 = some '#' then cursor.skipWhile fun c => !isLineEnd (some c) else cursor
  if isBreakOrEnd (cursor.peek 0) then .ok cursor.skipLineBreak else .error .malformed

def readDirective (version : Version) (fuel : Nat) (cursor : Cursor) :
    Except Fault (Directive × Cursor) := do
  let (name, cursor) := cursor.next.takeWhile isDirectiveChar
  if name.isEmpty || !isSpaceBreakOrEnd (cursor.peek 0) then .error .malformed
  else
    let (directive, cursor) ←
      if name = "YAML".toList then do
        let (version, cursor) ← readVersion (skipSpaces cursor)
        pure (.version version, cursor)
      else if name = "TAG".toList then do
        let (handle, cursor) ← readTagHandle (skipSpaces cursor)
        if cursor.peek 0 ≠ some ' ' then .error .malformed
        else do
          let (tagPrefix, cursor) ← readTagText version fuel [] (skipSpaces cursor)
          if isSpaceBreakOrEnd (cursor.peek 0) then pure (.tag handle tagPrefix, cursor)
          else .error .malformed
      else pure (.unknown, cursor.skipWhile fun c => !isLineEnd (some c))
    return (directive, ← skipIgnoredLine cursor)

end SqlDialects.Yaml
