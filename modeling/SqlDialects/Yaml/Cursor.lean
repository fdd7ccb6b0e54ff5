/-!
# Places in a document

A cursor stands before the unread part of a document and knows its place: the
number of characters read, the line and the column.
-/

namespace SqlDialects.Yaml

structure Mark where
  line : Nat
  column : Nat
deriving DecidableEq, Repr, Inhabited

structure Cursor where
  rest : List Char
  index : Nat
  line : Nat
  column : Nat
deriving DecidableEq, Repr

/-! ## Characters -/

/-- Line breaks; the last two are kept, the others are all read as newlines. -/
def isBreak (c : Char) : Bool :=
  c == '\n' || c == '\r' || c == '\x85' || c == '\u2028' || c == '\u2029'

def isBreakOrEnd (c : Option Char) : Bool :=
  c.all isBreak

def isLineEnd (c : Option Char) : Bool :=
  c.all fun c => c == '\n' || c == '\r' || c == '\x85'

def isSpace (c : Char) : Bool :=
  c == ' ' || c == '\t'

def isGap (c : Option Char) : Bool :=
  isLineEnd c || c.all isSpace

def isSpaceBreakOrEnd (c : Option Char) : Bool :=
  c.all fun c => c == ' ' || isBreak c

def isPrintable (c : Char) : Bool :=
  let n := c.toNat
  n == 9 || n == 10 || n == 13 || (decide (32 ≤ n) && decide (n ≤ 126)) || n == 0x85
    || (decide (0xA0 ≤ n) && decide (n ≤ 0xFFFD)) || decide (0x10000 ≤ n)

namespace Cursor

def start (content : List Char) : Cursor :=
  ⟨content, 0, 0, 0⟩

def mark (cursor : Cursor) : Mark :=
  ⟨cursor.line, cursor.column⟩

def peek (cursor : Cursor) (ahead : Nat) : Option Char :=
  cursor.rest[ahead]?

/-- Reads one character.  A byte order mark takes no column, and only newlines
and carriage returns end a line for the count of lines. -/
def next (cursor : Cursor) : Cursor :=
  match cursor.rest with
  | [] => cursor
  | c :: rest =>
    if c = '\n' ∨ (c = '\r' ∧ rest.head? ≠ some '\n') then
      ⟨rest, cursor.index + 1, cursor.line + 1, 0⟩
    else
      ⟨rest, cursor.index + 1, cursor.line,
        if c = '\uFEFF' then cursor.column else cursor.column + 1⟩

def skip : (count : Nat) → Cursor → Cursor
  | 0, cursor => cursor
  | count + 1, cursor => skip count cursor.next

def takeUntilFrom (stops : Char → Option Char → Bool) :
    List Char → (read : List Char) → Cursor → List Char × Cursor
  | [], read, cursor => (read.reverse, cursor)
  | c :: rest, read, cursor =>
    if stops c rest.head? then (read.reverse, cursor)
    else takeUntilFrom stops rest (c :: read) cursor.next

def takeUntil (stops : Char → Option Char → Bool) (cursor : Cursor) : List Char × Cursor :=
  takeUntilFrom stops cursor.rest [] cursor

def takeWhile (taken : Char → Bool) (cursor : Cursor) : List Char × Cursor :=
  cursor.takeUntil fun c _ => !taken c

def skipWhile (skipped : Char → Bool) (cursor : Cursor) : Cursor :=
  (cursor.takeWhile skipped).2

def lineBreak? (cursor : Cursor) : Option (Char × Cursor) :=
  match cursor.rest with
  | '\r' :: '\n' :: _ => some ('\n', cursor.skip 2)
  | c :: _ =>
    if c = '\u2028' ∨ c = '\u2029' then some (c, cursor.next)
    else if isBreak c then some ('\n', cursor.next)
    else none
  | [] => none

def skipLineBreak (cursor : Cursor) : Cursor :=
  match cursor.lineBreak? with
  | some (_, cursor) => cursor
  | none => cursor

def startsWith (cursor : Cursor) (c : Char) : Bool :=
  match cursor.rest with
  | c₁ :: c₂ :: c₃ :: rest => c₁ == c && c₂ == c && c₃ == c && isGap rest.head?
  | _ => false

def atSeparator (cursor : Cursor) : Bool :=
  cursor.startsWith '-' || cursor.startsWith '.'

end Cursor

end SqlDialects.Yaml
