import SqlDialects.Yaml.Document

/-!
# Limits on documents

Documents that are too long, that name anchors or that stand for too many nodes
are refused before they are read as schemas.
-/

namespace SqlDialects

inductive SafetyFault where
  | tooLong (length : Nat)
  | anchors
  | tooManyNodes
deriving DecidableEq, Repr

def maxDocumentLength : Nat := 1000000

def maxNodeCount : Nat := 10000

def maxDepth : Nat := 20

def SafetyFault.message : SafetyFault → String
  | .tooLong length =>
    "YAML document exceeds maximum size (" ++ Number.groupedText length ++ " chars > "
      ++ Number.groupedText maxDocumentLength ++ " limit)"
  | .anchors => "YAML anchors/aliases are not supported in schema files"
  | .tooManyNodes =>
    "YAML document exceeds maximum node count (" ++ Number.groupedText maxNodeCount ++ ")"

def precedesAnchor (c : Option Char) : Bool :=
  c.all fun c => Text.isBlank c || c == '-' || c == ':'

/-- Whether an ampersand before a word character stands at the start of a line,
after a blank, or after one of two indicators. -/
def namesAnchor : (previous : Option Char) → List Char → Bool
  | _, [] => false
  | previous, c :: rest =>
    (c == '&' && precedesAnchor previous && rest.head?.any Text.isWord)
      || namesAnchor (some c) rest

def checkText (content : List Char) : Except SafetyFault Unit :=
  let length := content.length
  if maxDocumentLength < length then .error (.tooLong length)
  else if namesAnchor none content then .error .anchors
  else .ok ()

def checkNodeCount (limit : Nat) (document : Yaml.Document) : Except SafetyFault Unit :=
  if document.exceeds limit [document.root] then .error .tooManyNodes else .ok ()

end SqlDialects
