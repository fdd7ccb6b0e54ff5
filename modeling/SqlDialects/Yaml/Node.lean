import SqlDialects.Yaml.Scalar
import SqlDialects.Yaml.Token.Stream

/-!
# Nodes

The tree of nodes that tokens describe.  A node that has an anchor stands in the
tree and also in a table, and an alias is a place in that table.
-/

namespace SqlDialects.Yaml

inductive Node where
  | scalar (mark : Mark) (tag : Tag) (isAnchored : Bool) (content : Text.Points)
  | sequence (mark : Mark) (tag : Tag) (items : List Node)
  | mapping (mark : Mark) (tag : Tag) (entries : List (Node × Node))
  | aliasOf (target : Nat)
deriving Inhabited

abbrev NodeTable := Array Node

/-- What is left from reading documents and counts for the next one: the version
that was declared last, how many collections were left open, and the anchors of a
document that was given up. -/
structure LoaderState where
  version : Version := .newest
  openDepth : Nat := 0
  anchors : List (String × Nat) := []
  nodes : NodeTable := #[]

structure Builder where
  tokens : List Token
  /-- Why no token comes after the given ones. -/
  fault : Fault
  version : Version
  maxDepth : Nat
  handles : List (String × String) := []
  depth : Nat
  anchors : List (String × Nat)
  nodes : NodeTable

namespace Builder

def kind? (builder : Builder) : Option TokenKind :=
  builder.tokens.head?.map Token.kind

def drop (builder : Builder) : Builder :=
  { builder with tokens := builder.tokens.tail }

def mapComments (change : Comments → Comments) (builder : Builder) : Builder :=
  match builder.tokens with
  | [] => builder
  | token :: tokens =>
    { builder with tokens := { token with comments := change token.comments } :: tokens }

/-- Drops a token that only marks a place and hands its comments on.  The start of
a document and the end of the stream take none. -/
def pass (builder : Builder) : Except Fault Builder :=
  match builder.tokens with
  | token :: next :: _ =>
    if next.kind = .streamEnd ∨ next.kind = .documentStart then .ok builder.drop
    else if token.comments.overlap next.comments then
      .error (.overlappingComments token.comments next.comments)
    else .ok (builder.drop.mapComments token.comments.handTo)
  | _ => .ok builder.drop

def dropCommentAfter (builder : Builder) : Builder :=
  builder.mapComments fun comments => { comments with after := none }

/-- Drops a colon.  The comment after it belongs to the value, also if that is not
written. -/
def passValue (builder : Builder) : Except Fault Builder :=
  match builder.drop.kind? with
  | some .key => .ok builder.drop
  | some .value | some .blockEnd => builder.pass.map dropCommentAfter
  | _ => builder.pass

def mark (builder : Builder) : Mark :=
  (builder.tokens.head?.map Token.start).getD default

def reject {α : Type} (builder : Builder) : Builder × Except Fault α :=
  (builder, .error (if builder.tokens.isEmpty then builder.fault else .malformed))

/-! ## Properties -/

structure Properties where
  anchor : Option String
  tag : Option (Option String × String)
  mark : Mark

def properties (builder : Builder) : Except Fault (Properties × Builder) :=
  let mark := builder.mark
  match builder.kind? with
  | some (.anchor name) => do
    let builder ← builder.pass
    match builder.kind? with
    | some (.tag handle suffix) => return (⟨some name, some (handle, suffix), mark⟩, builder.drop)
    | _ => return (⟨some name, none, mark⟩, builder)
  | some (.tag handle suffix) =>
    let builder := (builder.pass.toOption).getD builder.drop
    match builder.kind? with
    | some (.anchor name) => .ok (⟨some name, some (handle, suffix), mark⟩, builder.drop)
    | _ => .ok (⟨none, some (handle, suffix), mark⟩, builder)
  | _ => .ok (⟨none, none, mark⟩, builder)

def namedTag (builder : Builder) (properties : Properties) : Except Fault (Option Tag) :=
  match properties.tag with
  | none | some (none, "!") => .ok none
  | some (none, name) => .ok (some (.ofName name))
  | some (some handle, suffix) =>
    match builder.handles.find? fun entry => entry.1 == handle with
    | none => .error .malformed
    | some (_, tagPrefix) =>
      if handle = "!!" ∧ suffix = "str" then .ok (some (.other suffix))
      else .ok (some (.ofName (tagPrefix ++ suffix)))

/-! ## Anchors -/

def declare (anchor : Option String) (builder : Builder) : Option Nat × Builder :=
  match anchor with
  | none => (none, builder)
  | some name =>
    let target := builder.nodes.size
    (some target, { builder with
      anchors := (name, target) :: builder.anchors
      nodes := builder.nodes.push default })

def define (target : Option Nat) (node : Node) (builder : Builder) : Builder :=
  match target with
  | none => builder
  | some target => { builder with nodes := builder.nodes.setIfInBounds target node }

/-! ## Scalars -/

def scalar (properties : Properties) (tag : Option Tag) (style : ScalarStyle)
    (content : Text.Points) (builder : Builder) : Builder × Except Fault Node :=
  let resolved : Except Fault Tag :=
    match tag with
    | some tag => .ok tag
    | none =>
      if style = .plain ∨ properties.tag.isSome then
        match plainTag? builder.version content.shown.toList with
        | some tag => .ok tag
        | none => .error (.unknownVersion builder.version)
      else .ok .text
  match resolved with
  | .error fault => (builder, .error fault)
  | .ok tag =>
    let node := Node.scalar properties.mark tag properties.anchor.isSome content
    let (target, builder) := builder.declare properties.anchor
    (builder.define target node, .ok node)

def empty (mark : Mark) (builder : Builder) : Builder × Except Fault Node :=
  builder.scalar ⟨none, none, mark⟩ none .plain ""

/-! ## Depth -/

def enter (builder : Builder) : Builder × Except Fault Unit :=
  let builder := { builder with depth := builder.depth + 1 }
  if builder.maxDepth < builder.depth then (builder, .error .malformed) else (builder, .ok ())

def leave (builder : Builder) : Builder :=
  { builder with depth := builder.depth - 1 }

/-! ## Collections -/

inductive SequenceStyle where
  | block
  | indentless
  | flow
deriving DecidableEq, Repr

inductive MappingStyle where
  | block
  | flow
  | single
deriving DecidableEq, Repr

inductive CollectionStyle where
  | sequence (style : SequenceStyle)
  | mapping (style : MappingStyle)
deriving DecidableEq, Repr

def isNext (builder : Builder) (kinds : List TokenKind) : Bool :=
  builder.kind?.any kinds.contains

def stopMark (builder : Builder) : Mark :=
  (builder.tokens.head?.map Token.stop).getD default

def emptyOrReject (properties : Properties) (tag : Option Tag) (builder : Builder) :
    Builder × Except Fault Node :=
  if builder.tokens.isEmpty then builder.reject
  else if properties.anchor.isSome ∨ properties.tag.isSome then
    builder.scalar properties tag .plain ""
  else builder.reject

def collection? (inBlock indentless : Bool) (builder : Builder) :
    Option (CollectionStyle × Builder) :=
  match builder.kind? with
  | some .flowSequenceStart => some (.sequence .flow, builder.drop)
  | some .flowMappingStart => some (.mapping .flow, builder.drop)
  | some .blockEntry =>
    if indentless then some (.sequence .indentless, builder.dropCommentAfter) else none
  | some .blockSequenceStart => if inBlock then some (.sequence .block, builder.drop) else none
  | some .blockMappingStart => if inBlock then some (.mapping .block, builder.drop) else none
  | _ => none

def SequenceStyle.gapEnds : SequenceStyle → List TokenKind
  | .block => [.blockEntry, .blockEnd]
  | .indentless => [.blockEntry, .key, .value, .blockEnd]
  | .flow => []

def MappingStyle.keyEnds : MappingStyle → List TokenKind
  | .block => [.key, .value, .blockEnd]
  | .flow => [.value, .flowEntry, .flowMappingEnd]
  | .single => [.value, .flowEntry, .flowSequenceEnd]

def MappingStyle.valueEnds : MappingStyle → List TokenKind
  | .block => [.key, .value, .blockEnd]
  | .flow => [.flowEntry, .flowMappingEnd]
  | .single => [.flowEntry, .flowSequenceEnd]

/-- Drops the comma before all but the first part of a flow collection. -/
def dropComma? (isFirst : Bool) (builder : Builder) : Option Builder :=
  if isFirst then some builder
  else if builder.isNext [.flowEntry] then some builder.drop
  else none

mutual

def node : (fuel : Nat) → (inBlock indentless : Bool) → Builder → Builder × Except Fault Node
  | 0, _, _, builder => builder.reject
  | fuel + 1, inBlock, indentless, builder =>
    match builder.kind? with
    | some (.aliasOf name) =>
      match builder.anchors.find? fun entry => entry.1 == name with
      | some (_, target) => (builder.drop, .ok (.aliasOf target))
      | none => builder.reject
    | _ =>
      match builder.properties with
      | .error fault => (builder, .error fault)
      | .ok (properties, builder) =>
        match builder.namedTag properties with
        | .error fault => (builder, .error fault)
        | .ok tag =>
          match builder.kind?, builder.collection? inBlock indentless with
          | some (.scalar style content), _ => builder.drop.scalar properties tag style content
          | _, some (style, builder) => collection fuel style properties tag builder
          | _, none => builder.emptyOrReject properties tag

def collection : (fuel : Nat) → CollectionStyle → Properties → Option Tag → Builder →
    Builder × Except Fault Node
  | 0, _, _, _, builder => builder.reject
  | fuel + 1, style, properties, tag, builder =>
    match builder.enter with
    | (builder, .error fault) => (builder, .error fault)
    | (builder, .ok _) =>
      let (target, builder) := builder.declare properties.anchor
      let (builder, result) : Builder × Except Fault Node :=
        match style with
        | .sequence style =>
          match items fuel style true [] builder with
          | (builder, .error fault) => (builder, .error fault)
          | (builder, .ok items) =>
            (builder, .ok (.sequence properties.mark (tag.getD .sequence) items))
        | .mapping style =>
          match entries fuel style true [] builder with
          | (builder, .error fault) => (builder, .error fault)
          | (builder, .ok entries) =>
            (builder, .ok (.mapping properties.mark (tag.getD .mapping) entries))
      match result with
      | .error fault => (builder, .error fault)
      | .ok node => (builder.leave.define target node, .ok node)

def nodeUnless : (fuel : Nat) → (ends : List TokenKind) → (inBlock indentless : Bool) → Mark →
    Builder → Builder × Except Fault Node
  | 0, _, _, _, _, builder => builder.reject
  | fuel + 1, ends, inBlock, indentless, mark, builder =>
    if builder.isNext ends then builder.empty mark else node fuel inBlock indentless builder

def items : (fuel : Nat) → SequenceStyle → (isFirst : Bool) → (read : List Node) → Builder →
    Builder × Except Fault (List Node)
  | 0, _, _, _, builder => builder.reject
  | fuel + 1, .flow, isFirst, read, builder =>
    if builder.isNext [.flowSequenceEnd] then (builder.drop, .ok read.reverse)
    else match builder.dropComma? isFirst with
      | none => builder.reject
      | some builder =>
        if builder.isNext [.flowSequenceEnd] then (builder.drop, .ok read.reverse)
        else
          let result :=
            if builder.isNext [.key] then
              collection fuel (.mapping .single) ⟨none, none, builder.mark⟩ none builder
            else node fuel false false builder
          match result with
          | (builder, .error fault) => (builder, .error fault)
          | (builder, .ok item) => items fuel .flow false (item :: read) builder
  | fuel + 1, style, isFirst, read, builder =>
    if builder.isNext [.blockEntry] then
      match builder.pass with
      | .error fault => (builder, .error fault)
      | .ok rest =>
        match nodeUnless fuel style.gapEnds true false builder.stopMark rest with
        | (builder, .error fault) => (builder, .error fault)
        | (builder, .ok item) => items fuel style isFirst (item :: read) builder
    else if style = .indentless then (builder, .ok read.reverse)
    else if builder.isNext [.blockEnd] then (builder.drop, .ok read.reverse)
    else builder.reject

def value : (fuel : Nat) → MappingStyle → Builder → Builder × Except Fault Node
  | 0, _, builder => builder.reject
  | fuel + 1, style, builder =>
    let inBlock := style == .block
    if builder.isNext [.value] then
      match if inBlock then builder.passValue else .ok builder.drop with
      | .error fault => (builder, .error fault)
      | .ok rest => nodeUnless fuel style.valueEnds inBlock inBlock builder.stopMark rest
    else builder.empty builder.mark

def entry : (fuel : Nat) → MappingStyle → Builder → Builder × Except Fault (Node × Node)
  | 0, _, builder => builder.reject
  | fuel + 1, style, builder =>
    let inBlock := style == .block
    let key :=
      if builder.isNext [.key] then
        match if inBlock then builder.pass else .ok builder.drop with
        | .error fault => (builder, .error fault)
        | .ok rest => nodeUnless fuel style.keyEnds inBlock inBlock builder.stopMark rest
      else if builder.version.isModern && builder.isNext [.value] then
        builder.empty (if inBlock then builder.mark else builder.stopMark)
      else if inBlock then builder.reject
      else node fuel false false builder
    let isBare := !builder.isNext [.key, .value]
    match key with
    | (builder, .error fault) => (builder, .error fault)
    | (builder, .ok key) =>
      match if isBare then builder.empty builder.mark else value fuel style builder with
      | (builder, .error fault) => (builder, .error fault)
      | (builder, .ok value) => (builder, .ok (key, value))

def entries : (fuel : Nat) → MappingStyle → (isFirst : Bool) → (read : List (Node × Node)) →
    Builder → Builder × Except Fault (List (Node × Node))
  | 0, _, _, _, builder => builder.reject
  | fuel + 1, style, isFirst, read, builder =>
    let finish : Option TokenKind :=
      match style with
      | .block => some .blockEnd
      | .flow => some .flowMappingEnd
      | .single => none
    if finish.any fun kind => builder.isNext [kind] then
      match if style = .block then builder.pass else .ok builder.drop with
      | .error fault => (builder, .error fault)
      | .ok rest => (rest, .ok read.reverse)
    else if style = .single ∧ ¬isFirst then (builder, .ok read.reverse)
    else match if style = .flow then builder.dropComma? isFirst else some builder with
      | none => builder.reject
      | some builder =>
        if finish.any fun kind => builder.isNext [kind] then (builder.drop, .ok read.reverse)
        else match entry fuel style builder with
          | (builder, .error fault) => (builder, .error fault)
          | (builder, .ok entry) => entries fuel style false (entry :: read) builder

end

/-! ## Documents -/

def directives : List Token → (hasVersion : Bool) → (handles : List (String × String)) →
    Except Fault (List (String × String) × List Token)
  | ⟨.directive (.version version), _, _, _⟩ :: rest, hasVersion, handles =>
    if hasVersion ∨ version.major ≠ 1 then .error .malformed else directives rest true handles
  | ⟨.directive (.tag handle tagPrefix), _, _, _⟩ :: rest, hasVersion, handles =>
    if handles.any fun entry => entry.1 == handle then .error .malformed
    else directives rest hasVersion ((handle, tagPrefix) :: handles)
  | ⟨.directive .unknown, _, _, _⟩ :: rest, hasVersion, handles =>
    directives rest hasVersion handles
  | rest, _, handles => .ok (handles, rest)

def usualHandles : List (String × String) :=
  [("!", "!"), ("!!", Tag.standardPrefix)]

def documentContent (builder : Builder) (fuel : Nat) : Builder × Except Fault Node :=
  if builder.kind?.any fun kind =>
      match kind with
      | .directive _ | .documentStart | .documentEnd | .streamEnd => true
      | _ => false
  then builder.empty builder.mark
  else builder.node fuel true false

def explicitDocument (builder : Builder) (fuel : Nat) : Builder × Except Fault Node :=
  match directives builder.tokens false [] with
  | .error fault => (builder, .error fault)
  | .ok (handles, tokens) =>
    let builder := { builder with tokens := tokens, handles := handles ++ usualHandles }
    if builder.isNext [.documentStart] then builder.drop.documentContent fuel else builder.reject

def streamEnd (builder : Builder) : Builder × Except Fault Unit :=
  let rest :=
    if builder.version.isModern then
      if builder.isNext [.documentEnd] then builder.drop else builder
    else { builder with tokens := builder.tokens.dropWhile fun token => token.kind == .documentEnd }
  if rest.isNext [.streamEnd] then (rest, .ok ()) else rest.reject

def document (builder : Builder) (fuel : Nat) : Builder × Except Fault (Option Node) :=
  match builder.kind? with
  | none => builder.reject
  | some .streamEnd => (builder, .ok none)
  | some kind =>
    let starts :=
      match kind with
      | .directive _ | .documentStart => true
      | _ => false
    let (builder, result) :=
      if starts then builder.explicitDocument fuel
      else ({ builder with handles := usualHandles }).node fuel true false
    match result with
    | .error fault => (builder, .error fault)
    | .ok root =>
      match builder.streamEnd with
      | (builder, .error fault) => ({ builder with anchors := [] }, .error fault)
      | (builder, .ok _) => ({ builder with anchors := [] }, .ok (some root))

end Builder

/-- The tree of a document with the table that its aliases point to.  Nodes before
the `inherited`-th were left by earlier documents. -/
structure NodeTree where
  root : Option Node
  nodes : NodeTable
  inherited : Nat
  version : Version

def NodeTree.ofText (maxDepth : Nat) (state : LoaderState) (content : List Char) :
    LoaderState × Except Fault NodeTree :=
  let stream := TokenStream.ofText state.version content
  let builder : Builder := {
    tokens := stream.tokens
    fault := stream.fault.getD .malformed
    version := stream.version
    maxDepth := maxDepth
    depth := state.openDepth
    anchors := state.anchors
    nodes := state.nodes }
  let (after, result) := builder.document (4 * stream.tokens.length + 8)
  let next : LoaderState := {
    version := stream.version
    openDepth := after.depth
    anchors := after.anchors
    nodes := if after.anchors.isEmpty then #[] else after.nodes }
  (next, result.map fun root => ⟨root, after.nodes, state.nodes.size, stream.version⟩)

end SqlDialects.Yaml
