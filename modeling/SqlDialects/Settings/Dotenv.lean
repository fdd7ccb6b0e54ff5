import SqlDialects.Text.Character

/-!
# Environment files

An environment file binds names to values, one statement after the other.  A
value is bare, between single quotes or between double quotes; a name may also
stand without a value.  A value may refer to variables, which are names that
were bound before or else belong to the environment.
-/

namespace SqlDialects.Dotenv

structure Binding where
  name : String
  value : Option String
deriving DecidableEq, Repr

inductive Statement where
  | binding (binding : Binding)
  | comment
  | malformed
deriving DecidableEq, Repr

def isLineBlank (c : Char) : Bool :=
  Text.isBlank c && c != '\n'

def dropLineBlanks (text : List Char) : List Char :=
  text.dropWhile isLineBlank

def dropToLineEnd (text : List Char) : List Char :=
  text.dropWhile (· != '\n')

/-! ## Names -/

def dropExport (text : List Char) : List Char :=
  match text with
  | 'e' :: 'x' :: 'p' :: 'o' :: 'r' :: 't' :: c :: rest =>
    if isLineBlank c then dropLineBlanks rest else text
  | _ => text

def isNameChar (c : Char) : Bool :=
  c != '=' && c != '#' && !Text.isBlank c

def name? (text : List Char) : Option (Option (List Char) × List Char) :=
  match text with
  | '#' :: _ => some (none, text)
  | '\'' :: rest =>
    match rest.span (· != '\'') with
    | ([], _) | (_, []) => none
    | (name, _ :: rest) => some (some name, rest)
  | _ =>
    match text.span isNameChar with
    | ([], _) => none
    | (name, rest) => some (some name, rest)

/-! ## Values -/

def closedQuote? (quote : Char) :
    (previous : Char) → (read : List Char) → List Char → Option (List Char × List Char)
  | _, _, [] => none
  | previous, read, c :: rest =>
    if c = quote ∧ previous ≠ '\\' then some (read.reverse, rest)
    else closedQuote? quote c (c :: read) rest

def lastEscapedQuote? (quote : Char) : List Char → Option (List Char × List Char)
  | [] => none
  | c :: rest =>
    match lastEscapedQuote? quote rest with
    | some (content, rest) => some (c :: content, rest)
    | none =>
      match rest with
      | next :: rest => if c = '\\' ∧ next = quote then some ([c], rest) else none
      | [] => none

/-- The text between quotes.  A quote after a backslash belongs to the text unless
there is no other to end it. -/
def betweenQuotes? (quote : Char) (text : List Char) : Option (List Char × List Char) :=
  (closedQuote? quote quote [] text).orElse fun _ => lastEscapedQuote? quote text

def singleEscape? : Char → Option Char
  | '\\' => some '\\'
  | '\'' => some '\''
  | _ => none

def doubleEscape? : Char → Option Char
  | '\\' => some '\\'
  | '\'' => some '\''
  | '"' => some '"'
  | 'a' => some '\x07'
  | 'b' => some '\x08'
  | 'f' => some '\x0c'
  | 'n' => some '\n'
  | 'r' => some '\r'
  | 't' => some '\t'
  | 'v' => some '\x0b'
  | _ => none

def unescape (escape? : Char → Option Char) : List Char → List Char
  | '\\' :: code :: rest =>
    match escape? code with
    | some c => c :: unescape escape? rest
    | none => '\\' :: unescape escape? (code :: rest)
  | c :: rest => c :: unescape escape? rest
  | [] => []

def dropComment : List Char → List Char
  | [] => []
  | c :: rest =>
    if Text.isBlank c ∧ (rest.dropWhile Text.isBlank).head? = some '#' then []
    else c :: dropComment rest

def value? (text : List Char) : Option (List Char × List Char) :=
  match text with
  | '\'' :: rest =>
    (betweenQuotes? '\'' rest).map fun (content, rest) => (unescape singleEscape? content, rest)
  | '"' :: rest =>
    (betweenQuotes? '"' rest).map fun (content, rest) => (unescape doubleEscape? content, rest)
  | _ =>
    let (line, rest) := text.span (· != '\n')
    some (Text.trimEndBy Text.isBlank (dropComment line), rest)

/-! ## Statements -/

def lineEnd? (text : List Char) : Option (List Char) :=
  let text :=
    match dropLineBlanks text with
    | '#' :: rest => dropToLineEnd rest
    | rest => rest
  match text with
  | [] => some []
  | '\n' :: rest => some rest
  | _ => none

def binding? (text : List Char) : Option (Statement × List Char) := do
  let (name, rest) ← name? text
  let rest := dropLineBlanks rest
  let (value, rest) ←
    match rest with
    | '=' :: rest =>
      (value? (dropLineBlanks rest)).map fun (value, rest) => (some (String.ofList value), rest)
    | rest => some (none, rest)
  let rest ← lineEnd? rest
  return (name.elim .comment fun name => .binding ⟨String.ofList name, value⟩, rest)

/-- What is left after a statement that cannot be read: the text after the line on
which reading failed. -/
def afterFailure (text : List Char) : List Char :=
  (dropToLineEnd (failure text)).drop 1
where
  failure (text : List Char) : List Char :=
    match name? text with
    | none => text
    | some (_, rest) =>
      match dropLineBlanks rest with
      | '=' :: rest => ((value? (dropLineBlanks rest)).map Prod.snd).getD rest
      | rest => rest

def statement (text : List Char) : Statement × List Char :=
  match text.dropWhile Text.isBlank with
  | [] => (.comment, [])
  | text =>
    let text := dropExport text
    (binding? text).getD (.malformed, afterFailure text)

/-- The statements of a text, each with the unread text in front of which it was read. -/
def statementsFrom : (fuel : Nat) → List Char → List (List Char × Statement)
  | 0, _ => []
  | fuel + 1, text =>
    if text.isEmpty then []
    else
      let (found, rest) := statement text
      (text, found) :: statementsFrom fuel rest

def statements (text : List Char) : List (List Char × Statement) :=
  statementsFrom (text.length + 1) text

def malformedLines (text : List Char) : List Nat :=
  (statements text).filterMap fun (rest, found) =>
    if found = .malformed then some (text.count '\n' - rest.count '\n' + 1) else none

/-! ## Variables -/

abbrev Variables := List (String × Option String)

def resolve (known : Variables) (name fallback : String) : String :=
  match known.find? fun entry => entry.1 == name with
  | some (_, value) => value.getD ""
  | none => fallback

def reference? (text : List Char) : Option (String × String × List Char) :=
  let (name, rest) := text.span fun c => c != '\x7d' && c != ':'
  match rest with
  | '\x7d' :: rest => some (String.ofList name, "", rest)
  | ':' :: '-' :: rest =>
    match rest.span (· != '\x7d') with
    | (fallback, _ :: rest) => some (String.ofList name, String.ofList fallback, rest)
    | (_, []) => none
  | _ => none

def expandFrom (known : Variables) : (fuel : Nat) → List Char → List Char
  | 0, text => text
  | _ + 1, [] => []
  | fuel + 1, c :: rest =>
    let reference :=
      match c, rest with
      | '$', '\x7b' :: rest => reference? rest
      | _, _ => none
    match reference with
    | some (name, fallback, rest) =>
      (resolve known name fallback).toList ++ expandFrom known fuel rest
    | none => c :: expandFrom known fuel rest

def expand (known : Variables) (text : String) : String :=
  String.ofList (expandFrom known text.length text.toList)

/-- The bound names with their expanded values; the latest binding comes first, and
earlier bindings count before the environment. -/
def bindFrom (environment : Variables) (bound : Variables) : List Binding → Variables
  | [] => bound
  | binding :: rest =>
    let value := binding.value.map (expand (bound ++ environment))
    bindFrom environment ((binding.name, value) :: bound) rest

def bindings (environment : Variables) (text : List Char) : Variables :=
  bindFrom environment [] ((statements text).filterMap fun (_, found) =>
    match found with
    | .binding binding => some binding
    | _ => none)

end SqlDialects.Dotenv
