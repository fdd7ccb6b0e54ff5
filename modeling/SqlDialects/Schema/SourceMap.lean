import SqlDialects.Number.Integer
import SqlDialects.Validation.Violation
import SqlDialects.Yaml.Cursor

/-!
# Source maps

Where the parts of a document stand in its file.  A part is named by a path such
as `tables[0].name`.  The place of a part that has none of its own is that of the
nearest part around it that has one.
-/

namespace SqlDialects

open Text (Points CodePoint)

structure Span where
  file : String
  line : Int
  column : Int
deriving DecidableEq, Repr

def Span.ofMark (file : String) (mark : Yaml.Mark) : Span :=
  ⟨file, mark.line + 1, mark.column + 1⟩

/-- The places that were recorded, the last one first. -/
structure SourceMap where
  records : List (Points × Span)
deriving DecidableEq, Repr

namespace SourceMap

def empty : SourceMap := ⟨[]⟩

def add (path : Points) (span : Span) (map : SourceMap) : SourceMap :=
  ⟨(path, span) :: map.records⟩

def get? (map : SourceMap) (path : Points) : Option Span :=
  (map.records.find? fun record => record.1 == path).map Prod.snd

def paths (map : SourceMap) : List Points :=
  (map.records.reverse.map Prod.fst).eraseDups

def startsStep (point : CodePoint) : Bool :=
  point == '.' || point == '['

def parentOfReversed? (path : List CodePoint) : Option (List CodePoint) :=
  match path.dropWhile fun point => !startsStep point with
  | _ :: parent => if parent.isEmpty then none else some parent
  | [] => none

def nearestFrom? (map : SourceMap) : (fuel : Nat) → (reversed : List CodePoint) → Option Span
  | 0, _ => none
  | fuel + 1, reversed =>
    if reversed.isEmpty then none
    else match map.get? ⟨reversed.reverse⟩ with
      | some span => some span
      | none => (parentOfReversed? reversed).bind (map.nearestFrom? fuel)

def nearest? (map : SourceMap) (path : Points) : Option Span :=
  map.nearestFrom? (path.length + 1) path.toList.reverse

end SourceMap

def Step.extend (path : Points) : Step → Points
  | .index position => path ++ .ofString ("[" ++ Number.natText position ++ "]")
  | .key name => if path = "" then name else path ++ "." ++ name

def locationPath (location : List Step) : Points :=
  location.foldl Step.extend ""

end SqlDialects
