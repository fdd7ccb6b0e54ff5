import SqlDialects.Number.Integer
import SqlDialects.Text.LineEnd
import SqlDialects.Text.Quoted
import SqlDialects.Yaml.Cursor

/-!
# Comments

A token keeps the comments before it and the one after it.  A token that only
marks a place hands its comments on to the next token.  Where both already have a
comment, neither can be kept.  Empty lines between tokens count as comments.
-/

namespace SqlDialects.Yaml

/-- A comment and its place; the comment in the header of a block scalar has none. -/
structure Comment where
  content : String
  start : Option Mark
deriving DecidableEq, Repr

namespace Comment

def shown (comment : Comment) : String :=
  match comment.start with
  | none => Text.quoted comment.content
  | some mark =>
    "CommentToken(" ++ Text.quoted comment.content ++ ", line: " ++ Number.natText mark.line
      ++ ", col: " ++ Number.natText mark.column ++ ")"

def column (comment : Comment) : Nat :=
  (comment.start.map Mark.column).getD 0

def joined? : List Comment → Option Comment
  | [] => none
  | first :: others =>
    some { first with
      content := others.foldl (fun content comment =>
        content ++ String.ofList (List.replicate comment.column ' ') ++ comment.content)
        first.content }

end Comment

structure Comments where
  after : Option Comment := none
  before : List Comment := []
deriving DecidableEq, Repr

namespace Comments

def overlap (first second : Comments) : Bool :=
  (first.after.isSome && second.after.isSome) || (!first.before.isEmpty && !second.before.isEmpty)

def handTo (given own : Comments) : Comments :=
  ⟨given.after.or own.after, given.before ++ own.before⟩

def shown (comments : Comments) : String :=
  let after := (comments.after.map Comment.shown).getD "None"
  let before :=
    if comments.before.isEmpty then "None"
    else "[" ++ ", ".intercalate (comments.before.map Comment.shown) ++ "]"
  "[" ++ after ++ ", " ++ before ++ "]"

end Comments

/-! ## Reading comments -/

def readBreaks : (fuel : Nat) → (read : List Char) → Cursor → List Char × Cursor
  | 0, read, cursor => (read.reverse, cursor)
  | fuel + 1, read, cursor =>
    match cursor.lineBreak? with
    | some (c, after) => readBreaks fuel (c :: read) after
    | none => (read.reverse, cursor)

def readComment (fuel : Nat) (cursor : Cursor) : List Char × Cursor :=
  let (line, after) := cursor.takeWhile fun c => !isLineEnd (some c)
  match after.peek 0 with
  | none => (line ++ ['\n'], after)
  | some c =>
    let (breaks, after) := readBreaks fuel [] after.next
    (line ++ c :: breaks, after)

/-- Reads empty lines.  Of the last one only the break counts before a comment, and
spaces at the end never count. -/
def readEmptyLines (cursor : Cursor) : List Char × Cursor :=
  let (lines, after) := cursor.takeWhile fun c => isSpace c || isBreak c
  let lines := (Text.unifyLineEndsFrom [] lines).map fun c => if c = '\x85' then '\n' else c
  let reversed := lines.reverse
  let reversed :=
    if after.peek 0 = some '#' then '\n' :: (reversed.dropWhile (· ≠ '\n')).drop 1 else reversed
  ((reversed.dropWhile (· = ' ')).reverse, after)

def headerComment? (cursor : Cursor) : Option Comment :=
  let (line, _) := cursor.takeWhile fun c => !isLineEnd (some c)
  if (line.dropWhile (· = ' ')).head? = some '#' then some ⟨String.ofList line, none⟩ else none

end SqlDialects.Yaml
