import SqlDialects.Value.Shown
import SqlDialects.Yaml.Node

/-!
# Documents

The values that nodes stand for.  Mappings and sequences keep the places of their
keys and items.  An alias stays a reference until a document is expanded, so that
a small document with many aliases is never made large unasked.
-/

namespace SqlDialects.Yaml

inductive Datum where
  | leaf (value : Value)
  | sequence (items : List (Option Mark × Datum))
  | mapping (entries : List (Value × Option Mark × Datum))
  | aliasOf (target : Nat)
deriving Inhabited

/-! ## Keys -/

def clockInstant (moment : DateTime) : Int :=
  let date := moment.date
  let days := Calendar.daysBeforeYear date.year + Calendar.daysBeforeMonth date.year date.month
    + date.day
  let time := moment.time
  ((((days * 24 + time.hour) * 60 + time.minute) * 60 + time.second) * 1000000
    + time.microsecond : Nat)

def sameMoment (first second : DateTime) : Bool :=
  match first.offset, second.offset with
  | none, none => clockInstant first == clockInstant second
  | some offset, some other =>
    clockInstant first - offset.microseconds == clockInstant second - other.microseconds
  | _, _ => false

def realIs (real : Float) (number : Int) : Bool :=
  real.isFinite && Number.truncated real == number
    && Number.nearestReal (decide (number < 0)) number.natAbs 0 == real

inductive NumericKey where
  | integer (number : Int)
  | real (number : Float)

def numericKey? : Value → Option NumericKey
  | .boolean flag => some (.integer (if flag then 1 else 0))
  | .integer number => some (.integer number)
  | .real number => some (.real number)
  | _ => none

def sameNumber : NumericKey → NumericKey → Bool
  | .integer first, .integer second => first == second
  | .real first, .real second => first == second
  | .integer number, .real real | .real real, .integer number => realIs real number

mutual

/-- Whether two keys are equal.  Numbers and truth values are compared as numbers. -/
def sameKey : Value → Value → Bool
  | .text first, .text second => first == second
  | .illFormed first, .illFormed second => first == second
  | .null, .null => true
  | .bytes first, .bytes second => first == second
  | .date first, .date second => first == second
  | .moment first, .moment second => sameMoment first second
  | .list first, .list second => sameKeys first second
  | .mapping first, .mapping second => sameEntries first second
  | first, second =>
    match numericKey? first, numericKey? second with
    | some first, some second => sameNumber first second
    | _, _ => false

def sameKeys : List Value → List Value → Bool
  | [], [] => true
  | first :: firsts, second :: seconds => sameKey first second && sameKeys firsts seconds
  | _, _ => false

def sameEntries : List (Value × Value) → List (Value × Value) → Bool
  | [], [] => true
  | (firstKey, first) :: firsts, (secondKey, second) :: seconds =>
    sameKey firstKey secondKey && sameKey first second && sameEntries firsts seconds
  | _, _ => false

end

def shownText (value : Value) : String :=
  value.shown.toOption.getD ""

def keyText (key : Value) : Text.Points :=
  match key with
  | .list [item] => .ofString ("(" ++ shownText item ++ ",)")
  | .list items => .ofString ("(" ++ ", ".intercalate (items.map shownText) ++ ")")
  | .mapping entries =>
    .ofString ("ordereddict([" ++ ", ".intercalate (entries.map fun (key, value) =>
      "(" ++ shownText key ++ ", " ++ shownText value ++ ")") ++ "])")
  | key => key.toText.toOption.getD ""

def hasKeyText (key : Value) : Bool :=
  let isShown (value : Value) : Bool := value.shown.toOption.isSome
  match key with
  | .list items => items.all isShown
  | .mapping entries => entries.all fun (key, value) => isShown key && isShown value
  | key => key.toText.toOption.isSome

/-- What may be part of a key: collections inside collections may not. -/
def keyPart (datum : Datum) : Except Fault Value :=
  match datum with
  | .leaf value => .ok value
  | .sequence _ => .error (.unhashable "CommentedSeq")
  | .mapping _ => .error (.unhashable "CommentedMap")
  | .aliasOf _ => .error .malformed

def keyOf (datum : Datum) : Except Fault Value :=
  match datum with
  | .leaf value => .ok value
  | .sequence items => (items.mapM fun item => keyPart item.2).map Value.list
  | .mapping entries =>
    (entries.mapM fun entry => (keyPart entry.2.2).map (entry.1, ·)).map Value.mapping
  | .aliasOf _ => .error .malformed

/-! ## Making values -/

abbrev Entries := List (Value × Option Mark × Datum)

def hasKey (key : Value) (entries : Entries) : Bool :=
  entries.any fun entry => sameKey entry.1 key

def mergeEntries (entries : Entries) : (merged : Entries) → Entries
  | [] => entries
  | (key, _, value) :: merged =>
    if hasKey key entries then mergeEntries entries merged
    else mergeEntries (entries ++ [(key, none, value)]) merged

def markOf (nodes : NodeTable) : Node → Mark
  | .scalar mark .. | .sequence mark .. | .mapping mark .. => mark
  | .aliasOf target =>
    match nodes[target]? with
    | some (.scalar mark ..) | some (.sequence mark ..) | some (.mapping mark ..) => mark
    | _ => default

def isMergeKey (nodes : NodeTable) : Node → Bool
  | .scalar _ .merge .. => true
  | .aliasOf target =>
    match nodes[target]? with
    | some (.scalar _ .merge ..) => true
    | _ => false
  | _ => false

def plainKey : Node → Node
  | .scalar mark .defaultValue isAnchored content => .scalar mark .text isAnchored content
  | node => node

def target (nodes : NodeTable) : Node → Node
  | .aliasOf target => (nodes[target]?).getD default
  | node => node

/-- A fault inside a collection whose tag is unknown counts against its tag. -/
def blameTag {α : Type} (tag : Tag) (result : Except Fault α) : Except Fault α :=
  match tag with
  | .other _ | .merge | .defaultValue => result.mapError fun _ => .malformed
  | _ => result

mutual

def datum (tree : NodeTree) : (fuel : Nat) → Node → Except Fault Datum
  | 0, _ => .error .endless
  | fuel + 1, node =>
    match node with
    | .aliasOf target =>
      if tree.inherited ≤ target then .ok (.aliasOf target)
      else datum tree fuel ((tree.nodes[target]?).getD default)
    | .scalar _ tag isAnchored content =>
      (scalarValue tree.version tag isAnchored content).map .leaf
    | .sequence _ tag nodes =>
      match tag with
      | .sequence | .other _ | .merge | .defaultValue =>
        blameTag tag ((items tree fuel nodes []).map .sequence)
      | .orderedMapping => (orderedEntries tree fuel nodes []).map .mapping
      | .pairs =>
        (items tree fuel nodes []).map fun items =>
          .sequence (items.map fun _ => (none, .leaf (.tagged "")))
      | _ => .error .malformed
    | .mapping _ tag nodes =>
      match tag with
      | .mapping | .other _ | .merge | .defaultValue => blameTag tag do
        let merged ← merges tree fuel false nodes []
        let own ← entries tree fuel nodes []
        return .mapping (mergeEntries own merged)
      | .set => (entries tree fuel nodes []).map fun _ => .leaf (.tagged "")
      | _ => .error .malformed

def items (tree : NodeTree) : (fuel : Nat) → List Node → (made : List (Option Mark × Datum)) →
    Except Fault (List (Option Mark × Datum))
  | 0, _, _ => .error .endless
  | _ + 1, [], made => .ok made.reverse
  | fuel + 1, node :: nodes, made =>
    match datum tree fuel node with
    | .error fault => .error fault
    | .ok value => items tree fuel nodes ((some (markOf tree.nodes node), value) :: made)

def entries (tree : NodeTree) : (fuel : Nat) → List (Node × Node) → (made : Entries) →
    Except Fault Entries
  | 0, _, _ => .error .endless
  | _ + 1, [], made => .ok made.reverse
  | fuel + 1, (keyNode, valueNode) :: nodes, made =>
    if isMergeKey tree.nodes keyNode then entries tree fuel nodes made
    else
      match datum tree fuel (plainKey (target tree.nodes keyNode)) with
      | .error fault => .error fault
      | .ok key =>
        match datum tree fuel valueNode with
        | .error fault => .error fault
        | .ok value =>
          match keyOf key with
          | .error fault => .error fault
          | .ok key =>
            if hasKey key made then .error .malformed
            else
              entries tree fuel nodes ((key, some (markOf tree.nodes keyNode), value) :: made)

def merges (tree : NodeTree) : (fuel : Nat) → (isMerged : Bool) → List (Node × Node) →
    (made : Entries) → Except Fault Entries
  | 0, _, _, _ => .error .endless
  | _ + 1, _, [], made => .ok made
  | fuel + 1, isMerged, (keyNode, valueNode) :: nodes, made =>
    if !isMergeKey tree.nodes keyNode then merges tree fuel isMerged nodes made
    else if isMerged then .error .malformed
    else
      match target tree.nodes valueNode with
      | .mapping mark tag content =>
        match mergedMappings tree fuel [.mapping mark tag content] made with
        | .error fault => .error fault
        | .ok made => merges tree fuel true nodes made
      | .sequence _ _ content =>
        match mergedMappings tree fuel content made with
        | .error fault => .error fault
        | .ok made => merges tree fuel (isMerged || !content.isEmpty) nodes made
      | _ => .error .malformed

def mergedMappings (tree : NodeTree) : (fuel : Nat) → List Node → (made : Entries) →
    Except Fault Entries
  | 0, _, _ => .error .endless
  | _ + 1, [], made => .ok made
  | fuel + 1, node :: nodes, made =>
    match target tree.nodes node with
    | .mapping mark tag content =>
      match datum tree fuel (.mapping mark tag content) with
      | .ok (.mapping merged) => mergedMappings tree fuel nodes (mergeEntries made merged)
      | .ok _ => .error .malformed
      | .error fault => .error fault
    | _ => .error .malformed

def orderedEntries (tree : NodeTree) : (fuel : Nat) → List Node → (made : Entries) →
    Except Fault Entries
  | 0, _, _ => .error .endless
  | _ + 1, [], made => .ok made.reverse
  | fuel + 1, node :: nodes, made =>
    match target tree.nodes node with
    | .mapping _ _ [(keyNode, valueNode)] =>
      match datum tree fuel (target tree.nodes keyNode), datum tree fuel valueNode with
      | .error fault, _ | _, .error fault => .error fault
      | .ok key, .ok value =>
        match keyOf key with
        | .error fault => .error fault
        | .ok key =>
          if hasKey key made then .error .repeatedEntry
          else orderedEntries tree fuel nodes ((key, none, value) :: made)
    | _ => .error .malformed

end

/-! ## Whole documents -/

structure Document where
  root : Datum
  targets : Array Datum

def NodeTree.fuel (size : Nat) : Nat :=
  8 * size + 64

def Document.ofTree (size : Nat) (tree : NodeTree) : Except Fault Document :=
  match tree.root with
  | none => .ok ⟨.leaf .null, #[]⟩
  | some root => do
    let root ← datum tree (NodeTree.fuel size) root
    return ⟨root, tree.nodes.map fun node =>
      (datum tree (NodeTree.fuel size) node).toOption.getD (.leaf .null)⟩

def Document.load (maxDepth : Nat) (state : LoaderState) (content : List Char) :
    LoaderState × Except Fault Document :=
  match NodeTree.ofText maxDepth state content with
  | (state, .error fault) => (state, .error fault)
  | (state, .ok tree) => (state, Document.ofTree content.length tree)

namespace Document

def target (document : Document) : Datum → Datum
  | .aliasOf target => (document.targets[target]?).getD (.leaf .null)
  | datum => datum

def children (document : Document) (datum : Datum) : List Datum :=
  match document.target datum with
  | .sequence items => items.map Prod.snd
  | .mapping entries => entries.map fun entry => entry.2.2
  | _ => []

/-- Whether more nodes than a limit are reachable from some of them, where a node
counts each time that it is reached. -/
def exceeds (document : Document) : (limit : Nat) → List Datum → Bool
  | _, [] => false
  | 0, _ :: _ => true
  | limit + 1, datum :: rest => document.exceeds limit (document.children datum ++ rest)

mutual

/-- Replaces aliases by what they point to; one that leads back to itself has no end. -/
def expand (document : Document) : (fuel : Nat) → Datum → Except Fault Datum
  | 0, _ => .error .endless
  | fuel + 1, datum =>
    match document.target datum with
    | .leaf value => .ok (.leaf value)
    | .sequence items => (document.expandItems fuel items []).map .sequence
    | .mapping entries => (document.expandEntries fuel entries []).map .mapping
    | .aliasOf target => .ok (.aliasOf target)

def expandItems (document : Document) : (fuel : Nat) → List (Option Mark × Datum) →
    (made : List (Option Mark × Datum)) → Except Fault (List (Option Mark × Datum))
  | 0, _, _ => .error .endless
  | _ + 1, [], made => .ok made.reverse
  | fuel + 1, (mark, datum) :: items, made =>
    match document.expand fuel datum with
    | .error fault => .error fault
    | .ok datum => document.expandItems fuel items ((mark, datum) :: made)

def expandEntries (document : Document) : (fuel : Nat) → Entries → (made : Entries) →
    Except Fault Entries
  | 0, _, _ => .error .endless
  | _ + 1, [], made => .ok made.reverse
  | fuel + 1, (key, mark, datum) :: entries, made =>
    match document.expand fuel datum with
    | .error fault => .error fault
    | .ok datum => document.expandEntries fuel entries ((key, mark, datum) :: made)

end

end Document

namespace Datum

mutual

/-- The value without places; keys become texts, and of two equal ones the later counts. -/
def toValue : Datum → Value
  | leaf value => value
  | sequence items => .list (itemValues items)
  | mapping entries => .mapping (entryValues [] entries)
  | aliasOf _ => .null

def itemValues : List (Option Mark × Datum) → List Value
  | [] => []
  | (_, datum) :: items => datum.toValue :: itemValues items

def entryValues (made : List (Value × Value)) : Entries → List (Value × Value)
  | [] => made
  | (key, _, datum) :: entries =>
    entryValues (Value.insertEntry (keyText key) datum.toValue made) entries

end

mutual

def hasKeyTexts : Datum → Bool
  | sequence items => itemsHaveKeyTexts items
  | mapping entries => entriesHaveKeyTexts entries
  | _ => true

def itemsHaveKeyTexts : List (Option Mark × Datum) → Bool
  | [] => true
  | (_, datum) :: items => datum.hasKeyTexts && itemsHaveKeyTexts items

def entriesHaveKeyTexts : Entries → Bool
  | [] => true
  | (key, _, datum) :: entries =>
    hasKeyText key && datum.hasKeyTexts && entriesHaveKeyTexts entries

end

/-- Only a value whose keys all have a text can be searched for its places. -/
def checkKeyTexts (datum : Datum) : Except Fault Unit :=
  if datum.hasKeyTexts then .ok () else .error .unwritableKey

mutual

def places (path : Text.Points) : Datum → List (Text.Points × Mark)
  | sequence items => itemPlaces path 0 items
  | mapping entries => entryPlaces path entries
  | _ => []

def itemPlaces (path : Text.Points) (index : Nat) :
    List (Option Mark × Datum) → List (Text.Points × Mark)
  | [] => []
  | (mark, datum) :: items =>
    let itemPath := path ++ .ofString ("[" ++ Number.natText index ++ "]")
    (mark.map (itemPath, ·)).toList ++ datum.places itemPath ++ itemPlaces path (index + 1) items

def entryPlaces (path : Text.Points) : Entries → List (Text.Points × Mark)
  | [] => []
  | (key, mark, datum) :: entries =>
    let name := keyText key
    let entryPath := if path = "" then name else path ++ "." ++ name
    (mark.map (entryPath, ·)).toList ++ datum.places entryPath ++ entryPlaces path entries

end

end Datum

end SqlDialects.Yaml
