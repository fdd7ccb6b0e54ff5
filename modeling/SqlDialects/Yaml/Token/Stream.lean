import SqlDialects.Yaml.Token.Scalar

/-!
# The token stream

Reads a whole document as tokens.  Indentation opens and closes block
collections.  Whether a token starts a mapping key shows only at the colon after
it, so the place of every token that may be a key is kept until then, and the
tokens for the key are put there afterwards.  A comment is a token until all of
them are read; then the tokens around it take it.
-/

namespace SqlDialects.Yaml

inductive Flow where
  | sequence
  | mapping
deriving DecidableEq, Repr

/-- A token that may turn out to be a key: how many tokens came before it, and
whether nothing but a key may stand there. -/
structure KeyCandidate where
  level : Nat
  before : Nat
  isRequired : Bool
  index : Nat
  mark : Mark
deriving DecidableEq, Repr

structure Lexer where
  cursor : Cursor
  version : Version
  tokens : List Token := []
  count : Nat := 0
  flows : List Flow := []
  indent : Int := -1
  indents : List Int := []
  keysAllowed : Bool := true
  candidates : List KeyCandidate := []
  valueLine : Option Nat := none
  isDone : Bool := false

namespace Lexer

/-! ## Tokens -/

def push (kind : TokenKind) (start stop : Mark) (lexer : Lexer) : Lexer :=
  { lexer with
    tokens := { kind, start, stop } :: lexer.tokens
    count := lexer.count + 1
    valueLine := none }

def withComments (comments : Comments) (lexer : Lexer) : Lexer :=
  match lexer.tokens with
  | [] => lexer
  | token :: tokens => { lexer with tokens := { token with comments := comments } :: tokens }

def pushEmpty (kind : TokenKind) (lexer : Lexer) : Lexer :=
  lexer.push kind lexer.cursor.mark lexer.cursor.mark

def pushTo (kind : TokenKind) (after : Cursor) (lexer : Lexer) : Lexer :=
  { lexer.push kind lexer.cursor.mark after.mark with cursor := after }

def pushChars (kind : TokenKind) (length : Nat) (lexer : Lexer) : Lexer :=
  lexer.pushTo kind (lexer.cursor.skip length)

def insert (kind : TokenKind) (before : Nat) (mark : Mark) (lexer : Lexer) : Lexer :=
  let later := lexer.count - before
  { lexer with
    tokens :=
      lexer.tokens.take later ++ { kind, start := mark, stop := mark } :: lexer.tokens.drop later
    count := lexer.count + 1 }

def inFlow (lexer : Lexer) : Bool :=
  !lexer.flows.isEmpty

def level (lexer : Lexer) : Nat :=
  lexer.flows.length

/-! ## White space and comments -/

def skipGap : (fuel : Nat) → Lexer → Lexer
  | 0, lexer => lexer
  | fuel + 1, lexer =>
    let cursor := lexer.cursor.skipWhile fun c => c == ' ' || (lexer.inFlow && c == '\t')
    let keysAllowed := lexer.keysAllowed || !lexer.inFlow
    if cursor.peek 0 = some '#' then
      let (content, after) := readComment fuel cursor
      let valueLine := lexer.valueLine.filter (· == cursor.line)
      let lexer := ({ lexer with cursor := cursor }).pushTo (.comment (String.ofList content)) after
      skipGap fuel { lexer with keysAllowed := keysAllowed, valueLine := valueLine }
    else match cursor.lineBreak? with
      | none => { lexer with cursor := cursor }
      | some (_, after) =>
        let lexer := { lexer with cursor := after, keysAllowed := keysAllowed }
        if after.peek 0 = some '\n' then
          let (content, after) := readEmptyLines after
          skipGap fuel (lexer.pushTo (.comment (String.ofList content)) after)
        else skipGap fuel lexer

def skipByteOrderMark (lexer : Lexer) : Lexer :=
  if lexer.cursor.index = 0 ∧ lexer.cursor.peek 0 = some '\uFEFF' then
    { lexer with cursor := lexer.cursor.next }
  else lexer

/-! ## Keys -/

/-- A key is on one line and has at most 1024 characters. -/
def isStale (lexer : Lexer) (candidate : KeyCandidate) : Bool :=
  candidate.mark.line != lexer.cursor.line
    || decide (1024 < lexer.cursor.index - candidate.index)

def dropStaleCandidates (lexer : Lexer) : Except Fault Lexer :=
  if lexer.candidates.any fun candidate => candidate.isRequired && lexer.isStale candidate then
    .error .malformed
  else
    .ok { lexer with
      candidates := lexer.candidates.filter fun candidate => !lexer.isStale candidate }

def candidate? (lexer : Lexer) : Option KeyCandidate :=
  let level := lexer.level
  lexer.candidates.find? fun candidate => candidate.level == level

def dropCandidate (lexer : Lexer) : Except Fault Lexer :=
  if lexer.candidate?.any KeyCandidate.isRequired then .error .malformed
  else
    let level := lexer.level
    .ok { lexer with
      candidates := lexer.candidates.filter fun candidate => candidate.level != level }

def saveCandidate (lexer : Lexer) : Except Fault Lexer :=
  if lexer.keysAllowed then do
    let lexer ← lexer.dropCandidate
    let candidate : KeyCandidate := {
      level := lexer.level
      before := lexer.count
      isRequired := !lexer.inFlow && lexer.indent == lexer.cursor.column
      index := lexer.cursor.index
      mark := lexer.cursor.mark }
    return { lexer with candidates := candidate :: lexer.candidates }
  else .ok lexer

/-! ## Indentation -/

def unwindFrom (column : Int) : (outer : List Int) → Lexer → Lexer
  | outer, lexer =>
    if lexer.indent ≤ column then lexer
    else
      let lexer := lexer.pushEmpty .blockEnd
      match outer with
      | [] => { lexer with indent := -1, indents := [] }
      | indent :: outer => unwindFrom column outer { lexer with indent := indent, indents := outer }

def unwind (column : Int) (lexer : Lexer) : Lexer :=
  if lexer.inFlow then lexer else unwindFrom column lexer.indents lexer

def indentTo (column : Nat) (lexer : Lexer) : Bool × Lexer :=
  if lexer.indent < column then
    (true, { lexer with indent := column, indents := lexer.indent :: lexer.indents })
  else (false, lexer)

def openBlock (kind : TokenKind) (lexer : Lexer) : Lexer :=
  let (opened, lexer) := lexer.indentTo lexer.cursor.column
  if opened then lexer.pushEmpty kind else lexer

/-! ## Reading one token -/

def endDocument (lexer : Lexer) : Except Fault Lexer := do
  let lexer ← (lexer.unwind (-1)).dropCandidate
  return { lexer with keysAllowed := false }

def readStreamEnd (lexer : Lexer) : Except Fault Lexer := do
  let lexer ← lexer.endDocument
  return { lexer.pushEmpty .streamEnd with isDone := true, candidates := [] }

def readDirectiveToken (fuel : Nat) (lexer : Lexer) : Except Fault Lexer := do
  let lexer ← lexer.endDocument
  let (directive, after) ← readDirective lexer.version fuel lexer.cursor
  let version :=
    match directive with
    | .version version => version
    | _ => lexer.version
  return { lexer.pushTo (.directive directive) after with version := version }

def readSeparator (kind : TokenKind) (lexer : Lexer) : Except Fault Lexer := do
  let lexer ← lexer.endDocument
  return lexer.pushChars kind 3

/-- The most flow collections that may be open.  Loading allows far fewer. -/
def maxLevel : Nat := 2048

def startKind : Flow → TokenKind
  | .sequence => .flowSequenceStart
  | .mapping => .flowMappingStart

def readFlowStart (flow : Flow) (lexer : Lexer) : Except Fault Lexer := do
  if maxLevel ≤ lexer.level then .error .malformed
  else
    let lexer ← lexer.saveCandidate
    let lexer := { lexer with flows := flow :: lexer.flows, keysAllowed := true }
    return lexer.pushChars (startKind flow) 1

def readFlowEnd (kind : TokenKind) (lexer : Lexer) : Except Fault Lexer := do
  let lexer ← lexer.dropCandidate
  return { lexer.pushChars kind 1 with flows := lexer.flows.tail, keysAllowed := false }

def readFlowEntry (lexer : Lexer) : Except Fault Lexer := do
  let lexer ← lexer.dropCandidate
  return { lexer.pushChars .flowEntry 1 with keysAllowed := true }

def readBlockEntry (lexer : Lexer) : Except Fault Lexer := do
  if lexer.inFlow ∨ lexer.keysAllowed then
    let lexer := if lexer.inFlow then lexer else lexer.openBlock .blockSequenceStart
    let lexer ← lexer.dropCandidate
    return { lexer.pushChars .blockEntry 1 with keysAllowed := true }
  else .error .malformed

def readKey (lexer : Lexer) : Except Fault Lexer := do
  if lexer.inFlow ∨ lexer.keysAllowed then
    let lexer := if lexer.inFlow then lexer else lexer.openBlock .blockMappingStart
    let lexer ← lexer.dropCandidate
    return { lexer.pushChars .key 1 with keysAllowed := !lexer.inFlow }
  else .error .malformed

def acceptCandidate (candidate : KeyCandidate) (lexer : Lexer) : Lexer :=
  let lexer := { lexer with
    candidates := lexer.candidates.filter fun other => other.level != candidate.level }
  let lexer := lexer.insert .key candidate.before candidate.mark
  let (opened, lexer) :=
    if lexer.inFlow then (false, lexer) else lexer.indentTo candidate.mark.column
  let lexer :=
    if opened then lexer.insert .blockMappingStart candidate.before candidate.mark else lexer
  { lexer with keysAllowed := false }

def readBareValue (lexer : Lexer) : Except Fault Lexer :=
  if lexer.inFlow ∨ lexer.keysAllowed then
    let lexer := if lexer.inFlow then lexer else lexer.openBlock .blockMappingStart
    ({ lexer with keysAllowed := !lexer.inFlow }).dropCandidate
  else .error .malformed

def readValue (lexer : Lexer) : Except Fault Lexer := do
  let lexer ←
    match lexer.candidate? with
    | some candidate => pure (lexer.acceptCandidate candidate)
    | none => lexer.readBareValue
  return { lexer.pushChars .value 1 with valueLine := some lexer.cursor.line }

def readAnchorOrAlias (make : String → TokenKind) (lexer : Lexer) : Except Fault Lexer := do
  let lexer ← lexer.saveCandidate
  let (name, after) ← readAnchorName lexer.cursor
  return { lexer.pushTo (make name) after with keysAllowed := false }

def readTagToken (fuel : Nat) (lexer : Lexer) : Except Fault Lexer := do
  let lexer ← lexer.saveCandidate
  let (handle, suffix, after) ← readTag lexer.version fuel lexer.cursor
  return { lexer.pushTo (.tag handle suffix) after with keysAllowed := false }

def readBlockToken (style : ScalarStyle) (fuel : Nat) (lexer : Lexer) : Except Fault Lexer := do
  let lexer ← lexer.dropCandidate
  let scalar ← readBlockScalar (style == .folded) lexer.indent fuel lexer.cursor.next
  let lexer := lexer.pushTo (.scalar style (String.ofList scalar.content)) scalar.cursor
  return { lexer.withComments scalar.comments with keysAllowed := true }

def readQuotedToken (style : ScalarStyle) (fuel : Nat) (lexer : Lexer) : Except Fault Lexer := do
  let lexer ← lexer.saveCandidate
  let (content, after) ← readQuoted (style == .double) fuel [] lexer.cursor.next
  return { lexer.pushTo (.scalar style ⟨content⟩) after with keysAllowed := false }

def readPlainToken (fuel : Nat) (lexer : Lexer) : Except Fault Lexer := do
  let lexer ← lexer.saveCandidate
  let start := lexer.cursor.mark
  let scalar :=
    readPlainParts lexer.version lexer.inFlow (lexer.indent + 1) fuel [] [] start false lexer.cursor
  let lexer := lexer.push (.scalar .plain (String.ofList scalar.content)) start scalar.stop
  let comments : Comments := {
    after :=
      if scalar.emptyLines.isEmpty then none
      else some ⟨String.ofList scalar.emptyLines, some start⟩ }
  return { lexer.withComments comments with
    cursor := scalar.cursor
    keysAllowed := scalar.newLine }

/-! ## Choosing the token -/

def isValue (lexer : Lexer) : Bool :=
  let gapFollows := isGap (lexer.cursor.peek 1)
  match lexer.flows with
  | [] => gapFollows
  | flow :: _ =>
    if lexer.version = .oldest then true
    else if flow = .sequence ∨ lexer.valueLine.isSome then gapFollows
    else true

def isIndicator (c : Char) : Bool :=
  isSpace c || isBreak c || "-?:,[]\x7b\x7d#&*!|>'\"%@\x60".toList.contains c

def isPlainStart (lexer : Lexer) (c : Char) : Bool :=
  let next := lexer.cursor.peek 1
  !isIndicator c || (c == '-' && !isGap next)
    || (c == ':' && lexer.inFlow && lexer.version != .oldest && !next.any isSpace)
    || ((c == '?' || c == ':') && !lexer.inFlow && !isGap next)

def readTokenAt (fuel : Nat) (c : Char) (lexer : Lexer) : Except Fault Lexer :=
  let cursor := lexer.cursor
  let gapFollows := isGap (cursor.peek 1)
  if cursor.column = 0 ∧ c = '%' then lexer.readDirectiveToken fuel
  else if cursor.column = 0 ∧ cursor.startsWith '-' then lexer.readSeparator .documentStart
  else if cursor.column = 0 ∧ cursor.startsWith '.' then lexer.readSeparator .documentEnd
  else if c = '[' then lexer.readFlowStart .sequence
  else if c = '\x7b' then lexer.readFlowStart .mapping
  else if c = ']' then lexer.readFlowEnd .flowSequenceEnd
  else if c = '\x7d' then lexer.readFlowEnd .flowMappingEnd
  else if c = ',' then lexer.readFlowEntry
  else if c = '-' ∧ gapFollows then lexer.readBlockEntry
  else if c = '?' ∧ (lexer.inFlow ∨ gapFollows) then lexer.readKey
  else if c = ':' ∧ lexer.isValue then lexer.readValue
  else if c = '*' then lexer.readAnchorOrAlias .aliasOf
  else if c = '&' then lexer.readAnchorOrAlias .anchor
  else if c = '!' then lexer.readTagToken fuel
  else if c = '|' ∧ ¬lexer.inFlow then lexer.readBlockToken .literal fuel
  else if c = '>' ∧ ¬lexer.inFlow then lexer.readBlockToken .folded fuel
  else if c = '\'' then lexer.readQuotedToken .single fuel
  else if c = '"' then lexer.readQuotedToken .double fuel
  else if lexer.isPlainStart c then lexer.readPlainToken fuel
  else .error .malformed

def step (fuel : Nat) (lexer : Lexer) : Except Fault Lexer := do
  let lexer ← (lexer.skipByteOrderMark.skipGap fuel).dropStaleCandidates
  let lexer := lexer.unwind lexer.cursor.column
  match lexer.cursor.rest with
  | [] => lexer.readStreamEnd
  | c :: _ => lexer.readTokenAt fuel c

def settledTokens (lexer : Lexer) : List Token :=
  let settled := lexer.candidates.foldl (fun least candidate => min least candidate.before)
    lexer.count
  lexer.tokens.drop (lexer.count - settled)

end Lexer

/-! ## The tokens of comments -/

/-- Whether a comment that follows a token belongs to it: always to a scalar, and
on the same line to a colon or the end of a flow collection. -/
def Token.keeps (token : Token) (comment : Comment) : Bool :=
  match token.kind with
  | .scalar .. => true
  | .value | .flowSequenceEnd | .flowMappingEnd =>
    comment.start.any fun mark => mark.line == token.stop.line
  | _ => false

def commentBefore (comments : List Comment) : List Token → List Token
  | [] => []
  | token :: tokens =>
    { token with comments := { token.comments with
      before := comments ++ token.comments.before } } :: tokens

def Token.keep (comments : List Comment) (token : Token) : Token :=
  if token.kind = .value then
    { token with comments := { token.comments with after := Comment.joined? comments } }
  else token

/-- Replaces the tokens of comments by comments of other tokens.  The tokens are
given with the last one first; `waiting` follow those that are left. -/
def attachComments : List Token → (waiting : List Comment) → (made : List Token) → List Token
  | [], waiting, made => commentBefore waiting made
  | ⟨.comment content, start, _, _⟩ :: earlier, waiting, made =>
    attachComments earlier (⟨content, some start⟩ :: waiting) made
  | token :: earlier, waiting, made =>
    if waiting.head?.any token.keeps then attachComments earlier [] (token.keep waiting :: made)
    else attachComments earlier [] (token :: commentBefore waiting made)

structure TokenStream where
  tokens : List Token
  fault : Option Fault
  version : Version
deriving DecidableEq, Repr

namespace TokenStream

def readAll (size : Nat) : (fuel : Nat) → Lexer → TokenStream
  | 0, lexer => ⟨attachComments lexer.settledTokens [] [], some .malformed, lexer.version⟩
  | fuel + 1, lexer =>
    match lexer.step size with
    | .error fault => ⟨attachComments lexer.settledTokens [] [], some fault, lexer.version⟩
    | .ok lexer =>
      if lexer.isDone then ⟨attachComments lexer.tokens [] [], none, lexer.version⟩
      else readAll size fuel lexer

def ofText (version : Version) (content : List Char) : TokenStream :=
  let size := content.length + 2
  if content.all isPrintable then readAll size size { cursor := .start content, version := version }
  else ⟨[], some .malformed, version⟩

end TokenStream

end SqlDialects.Yaml
