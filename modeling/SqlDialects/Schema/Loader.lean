import SqlDialects.Schema.Safety
import SqlDialects.Schema.SourceMap
import SqlDialects.Table.Validation

/-!
# Loading schemas

A schema document holds a list of tables.  Loading gives all tables or all that
is wrong with any of them, with the places where it is wrong.
-/

namespace SqlDialects

structure SchemaViolation where
  path : Text.Points
  message : Text.Points
  span : Option Span
deriving DecidableEq, Repr

/-- Why a document is no schema.  A document that keeps the grammar and still has no
value is neither refused nor malformed. -/
inductive SchemaFault where
  | refused (fault : SafetyFault)
  | malformed
  | missingTables
  | invalid (violations : List SchemaViolation)
  | valueless (fault : Yaml.Fault)
deriving DecidableEq, Repr

structure SchemaError where
  code : String
  message : Text.Points
  path : Option Text.Points
  span : Option Span
deriving DecidableEq, Repr

namespace SchemaFault

/-- The errors that are reported for a document that could be read as far as it
was read; the wording of a syntax error is left open. -/
def errors : SchemaFault → List SchemaError
  | .malformed => [⟨"YAML_PARSE_ERROR", "", none, none⟩]
  | .missingTables =>
    [⟨"MISSING_TABLES", "Schema document must contain a 'tables' list", some "tables", none⟩]
  | .invalid violations =>
    violations.map fun violation =>
      ⟨"INVALID_TABLE", violation.path ++ ": " ++ violation.message,
        some violation.path, violation.span⟩
  | .refused _ | .valueless _ => []

def summary (fault : SchemaFault) : Text.Points :=
  let errors := fault.errors
  .ofString ("Schema has " ++ Number.natText errors.length ++ " error(s): ")
    ++ Text.Points.intercalate "; " ((errors.take 3).map SchemaError.message)

end SchemaFault

namespace Schema

def sourceMap (file : String) (root : Yaml.Datum) : SourceMap :=
  (root.places "").foldl (fun map place => map.add place.1 (.ofMark file place.2)) .empty

def entryViolations (map : SourceMap) (position : Nat) (violations : List Violation) :
    List SchemaViolation :=
  violations.map fun violation =>
    let path := locationPath (.key "tables" :: .index position :: violation.location)
    ⟨path, violation.rule.message, map.nearest? path⟩

def checkEntries (map : SourceMap) :
    (position : Nat) → List Value → List Table × List SchemaViolation
  | _, [] => ([], [])
  | position, entry :: entries =>
    let (tables, violations) := checkEntries map (position + 1) entries
    match Table.check .record entry with
    | .valid table => (table :: tables, violations)
    | .invalid found => (tables, entryViolations map position found ++ violations)

def tables (map : SourceMap) (root : Value) : Except SchemaFault (List Table) :=
  match root.get? "tables" with
  | some (.list entries) =>
    match checkEntries map 0 entries with
    | (tables, []) => .ok tables
    | (_, violations) => .error (.invalid violations)
  | _ => .error .missingTables

def ofYaml : Yaml.Fault → SchemaFault
  | .malformed => .malformed
  | fault => .valueless fault

def ofDocument (file : String) (document : Yaml.Document) : Except SchemaFault (List Table) :=
  match document.root with
  | .leaf .null => .ok []
  | root => do
    (checkNodeCount maxNodeCount document).mapError .refused
    -- The fuel suffices for as many nodes as have been counted.
    let root ← (document.expand (2 * maxNodeCount + 2) root).mapError ofYaml
    root.checkKeyTexts.mapError ofYaml
    tables (sourceMap file root) root.toValue

/-- Loads a schema from a text.  What the loader keeps of it is returned in any case.  Half a
surrogate pair counts for its length, names no anchor and keeps the text from being read. -/
def loadText (state : Yaml.LoaderState) (file : String) (content : Text.Points) :
    Yaml.LoaderState × Except SchemaFault (List Table) :=
  match checkText content.shown.toList with
  | .error fault => (state, .error (.refused fault))
  | .ok _ =>
    match content.content with
    | .inr _ => (state, .error .malformed)
    | .inl text =>
      match Yaml.Document.load maxDepth state text.toList with
      | (state, .error fault) => (state, .error (ofYaml fault))
      | (state, .ok document) => (state, ofDocument file document)

def positions (content : Text.Points) : Except Yaml.Fault (List (Text.Points × Span)) :=
  match content.content with
  | .inr _ => .error .malformed
  | .inl text => do
    let chars := text.toList
    let document ← (Yaml.Document.load maxDepth {} chars).2
    let root ← document.expand (Yaml.NodeTree.fuel chars.length) document.root
    root.checkKeyTexts
    let map := sourceMap "" root
    return map.paths.filterMap fun path => (map.get? path).map (path, ·)

end Schema

end SqlDialects
