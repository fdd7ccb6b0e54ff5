import SqlDialects.Yaml.Token.Name

/-!
# Scalar tokens

The contents of plain, quoted and block scalars.
-/

namespace SqlDialects.Yaml

open Number

/-! ## Plain scalars -/

/-- Where a plain scalar ends within a line.  In a flow collection its
indicators end it; a colon ends it before a gap only. -/
def plainStops (version : Version) (inFlow : Bool) (c : Char) (next : Option Char) : Bool :=
  if c == ':' && !isGap next then false
  else if c == '?' && version != .oldest then false
  else isGap (some c) || (!inFlow && c == ':' && isGap next)
    || (inFlow && ",:?[]\x7b\x7d".toList.contains c)

structure PlainGap where
  content : List Char
  newLine : Bool
  cursor : Cursor

def readPlainBreaks : (fuel : Nat) → (read : List Char) → Cursor → Option (List Char) × Cursor
  | 0, read, cursor => (some read.reverse, cursor)
  | fuel + 1, read, cursor =>
    match cursor.lineBreak? with
    | some (c, after) =>
      if after.atSeparator then (none, after) else readPlainBreaks fuel (c :: read) after
    | none =>
      if cursor.peek 0 = some ' ' then readPlainBreaks fuel read cursor.next
      else (some read.reverse, cursor)

def foldBreaks (first : Char) (breaks : List Char) : List Char :=
  if first ≠ '\n' then first :: breaks
  else if breaks.isEmpty then [' ']
  else breaks

def readPlainGap (fuel : Nat) (cursor : Cursor) : PlainGap :=
  let (spaces, after) := cursor.takeWhile (· == ' ')
  match after.lineBreak? with
  | none => ⟨spaces, false, after⟩
  | some (first, after) =>
    if after.atSeparator then ⟨[], true, after⟩
    else match readPlainBreaks fuel [] after with
      | (none, after) => ⟨[], true, after⟩
      | (some breaks, after) => ⟨foldBreaks first breaks, true, after⟩

/-- The content of a plain scalar, the place where it stops, the empty lines after
it, the unread rest, and whether a line break was read. -/
structure PlainScalar where
  content : List Char
  stop : Mark
  emptyLines : List Char
  cursor : Cursor
  newLine : Bool

def emptyLinesOf (gap : List Char) : List Char :=
  if gap.head? = some '\n' then gap ++ ['\n'] else []

def readPlainParts (version : Version) (inFlow : Bool) (indent : Int) :
    (fuel : Nat) → (gap read : List Char) → (stop : Mark) → (newLine : Bool) → Cursor → PlainScalar
  | 0, _, read, stop, newLine, cursor => ⟨read.reverse, stop, [], cursor, newLine⟩
  | fuel + 1, gap, read, stop, newLine, cursor =>
    if cursor.peek 0 = some '#' then ⟨read.reverse, stop, emptyLinesOf gap, cursor, newLine⟩
    else
      let (part, after) := cursor.takeUntil (plainStops version inFlow)
      if part.isEmpty then ⟨read.reverse, stop, emptyLinesOf gap, cursor, newLine⟩
      else
        let read := part.reverse ++ (gap.reverse ++ read)
        let next := readPlainGap fuel after
        let newLine := next.newLine
        if next.content.isEmpty || next.cursor.peek 0 = some '#'
            || (!inFlow && decide ((next.cursor.column : Int) < indent)) then
          ⟨read.reverse, after.mark, emptyLinesOf next.content, next.cursor, newLine⟩
        else
          readPlainParts version inFlow indent fuel next.content read after.mark newLine next.cursor

/-! ## Quoted scalars -/

def replacement? : Char → Option Char
  | '0' => some '\x00'
  | 'a' => some '\x07'
  | 'b' => some '\x08'
  | 't' => some '\t'
  | '\t' => some '\t'
  | 'n' => some '\n'
  | 'v' => some '\x0b'
  | 'f' => some '\x0c'
  | 'r' => some '\r'
  | 'e' => some '\x1b'
  | ' ' => some ' '
  | '"' => some '"'
  | '/' => some '/'
  | '\\' => some '\\'
  | 'N' => some '\x85'
  | '_' => some '\xa0'
  | 'L' => some '\u2028'
  | 'P' => some '\u2029'
  | _ => none

def codeLength? : Char → Option Nat
  | 'x' => some 2
  | 'u' => some 4
  | 'U' => some 8
  | _ => none

def hexNumber? : (count value : Nat) → List Char → Option Nat
  | 0, value, _ => some value
  | _ + 1, _, [] => none
  | count + 1, value, c :: rest =>
    (hexDigit? c).bind fun digit => hexNumber? count (value * 16 + digit) rest

def codePoint (code : Nat) : Except Fault Text.CodePoint :=
  if 0x110000 ≤ code then .error (.characterCode code) else .ok (.ofNat code)

def readQuotedBreaks : (fuel : Nat) → (read : List Char) → Cursor →
    Except Fault (List Char × Cursor)
  | 0, read, cursor => .ok (read.reverse, cursor)
  | fuel + 1, read, cursor =>
    if cursor.atSeparator then .error .malformed
    else
      let cursor := cursor.skipWhile isSpace
      match cursor.lineBreak? with
      | some (c, after) => readQuotedBreaks fuel (c :: read) after
      | none => .ok (read.reverse, cursor)

def readEscape (fuel : Nat) (cursor : Cursor) : Except Fault (List Text.CodePoint × Cursor) :=
  match cursor.rest with
  | [] => .error .malformed
  | c :: rest =>
    match replacement? c, codeLength? c with
    | some c, _ => .ok ([.char c], cursor.next)
    | none, some length =>
      match hexNumber? length 0 rest with
      | some code => (codePoint code).map fun point => ([point], cursor.skip (length + 1))
      | none => .error .malformed
    | none, none =>
      match cursor.lineBreak? with
      | some (_, after) =>
        (readQuotedBreaks fuel [] after).map fun (breaks, after) => (breaks.map .char, after)
      | none => .error .malformed

def readQuoted (double : Bool) : (fuel : Nat) → (read : List Text.CodePoint) → Cursor →
    Except Fault (List Text.CodePoint × Cursor)
  | 0, _, _ => .error .malformed
  | fuel + 1, read, cursor =>
    match cursor.rest with
    | [] => .error .malformed
    | c :: rest =>
      if c = '"' ∧ double then .ok (read.reverse, cursor.next)
      else if c = '\'' ∧ ¬double then
        if rest.head? = some '\'' then readQuoted double fuel (.char '\'' :: read) (cursor.skip 2)
        else .ok (read.reverse, cursor.next)
      else if c = '\\' ∧ double then
        match readEscape fuel cursor.next with
        | .error fault => .error fault
        | .ok (content, after) => readQuoted double fuel (content.reverse ++ read) after
      else if isSpace c || isBreak c then
        let (spaces, after) := cursor.takeWhile isSpace
        match after.lineBreak? with
        | none => readQuoted double fuel (spaces.reverse.map .char ++ read) after
        | some (first, after) =>
          match readQuotedBreaks fuel [] after with
          | .error fault => .error fault
          | .ok (breaks, after) =>
            readQuoted double fuel ((foldBreaks first breaks).reverse.map .char ++ read) after
      else readQuoted double fuel (.char c :: read) cursor.next

/-! ## Block scalars -/

inductive Chomping where
  | clip
  | strip
  | keep
deriving DecidableEq, Repr

def chomping? : Option Char → Option Chomping
  | some '+' => some .keep
  | some '-' => some .strip
  | _ => none

def increment? (c : Option Char) : Option Nat :=
  c.bind fun c => if c.isDigit then some (c.toNat - 48) else none

structure BlockHeader where
  chomping : Chomping
  increment : Option Nat
  comment : Option Comment
  cursor : Cursor

def readBlockHeader (cursor : Cursor) : Except Fault BlockHeader := do
  let (chomping, increment, after) :=
    match chomping? (cursor.peek 0), increment? (cursor.peek 0) with
    | some chomping, _ =>
      match increment? (cursor.peek 1) with
      | some increment => (chomping, some increment, cursor.skip 2)
      | none => (chomping, none, cursor.next)
    | none, some increment =>
      match chomping? (cursor.peek 1) with
      | some chomping => (chomping, some increment, cursor.skip 2)
      | none => (.clip, some increment, cursor.next)
    | none, none => (.clip, none, cursor)
  if increment = some 0 ∨ ¬isSpaceBreakOrEnd (after.peek 0) then .error .malformed
  else return ⟨chomping, increment, headerComment? after, ← skipIgnoredLine after⟩

def readIndentation : (fuel : Nat) → (read : List Char) → (first : Option Nat) → (deepest : Nat) →
    Cursor → Except Fault (List Char × Nat × Cursor)
  | 0, read, _, deepest, cursor => .ok (read.reverse, deepest, cursor)
  | fuel + 1, read, first, deepest, cursor =>
    match cursor.lineBreak? with
    | some (c, after) =>
      readIndentation fuel (c :: read) (first.or (some cursor.column)) deepest after
    | none =>
      if cursor.peek 0 = some ' ' then
        readIndentation fuel read first (max deepest cursor.next.column) cursor.next
      else if first.any fun first => decide (0 < first) && decide (first < deepest) then
        .error .malformed
      else .ok (read.reverse, deepest, cursor)

def skipIndent (indent : Nat) : (fuel : Nat) → Cursor → Cursor
  | 0, cursor => cursor
  | fuel + 1, cursor =>
    if cursor.column < indent ∧ cursor.peek 0 = some ' ' then skipIndent indent fuel cursor.next
    else cursor

def readBlockBreaks (indent : Nat) : (fuel : Nat) → (read : List Char) → Cursor →
    List Char × Cursor
  | 0, read, cursor => (read.reverse, cursor)
  | fuel + 1, read, cursor =>
    let cursor := skipIndent indent fuel cursor
    match cursor.lineBreak? with
    | some (c, after) => readBlockBreaks indent fuel (c :: read) after
    | none => (read.reverse, cursor)

/-- The lines of a block scalar: what was read, reversed, the break after the
last line, and the empty lines after that. -/
structure BlockLines where
  read : List Char
  lastBreak : List Char
  breaks : List Char
  cursor : Cursor

def breakChars (cursor : Cursor) : List Char × Cursor :=
  match cursor.lineBreak? with
  | some (c, after) => ([c], after)
  | none => ([], cursor)

def readBlockLines (folded topLevel : Bool) (indent : Nat) :
    (fuel : Nat) → (read breaks lastBreak : List Char) → Cursor → BlockLines
  | 0, read, breaks, lastBreak, cursor => ⟨read, lastBreak, breaks, cursor⟩
  | fuel + 1, read, breaks, lastBreak, cursor =>
    if cursor.column ≠ indent ∨ cursor.rest.isEmpty then ⟨read, lastBreak, breaks, cursor⟩
    else
      let isText := !(cursor.peek 0).all isSpace
      let (line, after) := cursor.takeUntil fun c _ => isLineEnd (some c)
      let read := line.reverse ++ (breaks.reverse ++ read)
      let (lastBreak, after) := breakChars after
      let (breaks, after) := readBlockBreaks indent fuel [] after
      if topLevel && after.column == 0 && after.atSeparator then ⟨read, lastBreak, breaks, after⟩
      else if after.column = indent ∧ ¬after.rest.isEmpty then
        let folds := folded && lastBreak == ['\n'] && isText && !(after.peek 0).all isSpace
        let joint := if folds then (if breaks.isEmpty then [' '] else []) else lastBreak
        readBlockLines folded topLevel indent fuel (joint ++ read) breaks [] after
      else ⟨read, lastBreak, breaks, after⟩

structure BlockScalar where
  content : List Char
  comments : Comments
  cursor : Cursor

def BlockLines.split (chomping : Chomping) (lines : BlockLines) : List Char × List Char :=
  match chomping with
  | .strip => ([], lines.breaks)
  | .clip => (lines.lastBreak, lines.breaks)
  | .keep => (lines.lastBreak ++ lines.breaks, [])

def readBlockScalar (folded : Bool) (parentIndent : Int) (fuel : Nat) (cursor : Cursor) :
    Except Fault BlockScalar := do
  let header ← readBlockHeader cursor
  let least := (parentIndent + 1).toNat
  let (breaks, indent, topLevel, cursor) ←
    match header.increment with
    | none => do
      let (breaks, deepest, cursor) ← readIndentation fuel [] none 0 header.cursor
      pure (breaks, max least deepest, least == 0, cursor)
    | some increment =>
      let indent := max least 1 + increment - 1
      let (breaks, cursor) := readBlockBreaks indent fuel [] header.cursor
      pure (breaks, indent, false, cursor)
  let lines := readBlockLines folded topLevel indent fuel [] breaks [] cursor
  let (tail, emptyLines) := lines.split header.chomping
  let comments : Comments := {
    after :=
      if emptyLines.isEmpty then none
      else some ⟨String.ofList emptyLines, some ⟨lines.cursor.line, 0⟩⟩
    before := header.comment.toList }
  return ⟨lines.read.reverse ++ tail, comments, lines.cursor⟩

end SqlDialects.Yaml
