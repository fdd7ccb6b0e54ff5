import SqlDialects.Proofs.Yaml.Reach
import SqlDialects.Yaml.Document

/-!
# Leaves of documents

A leaf of a document is a scalar.  So a value with parts comes from a node that has these
parts, and where the value of a document has an entry or an item the document has it too.
-/

namespace SqlDialects

/-- A value that is no collection. -/
def Value.IsScalar : Value → Prop
  | .list _ | .mapping _ => False
  | _ => True

theorem Value.isScalar_ofPoints (content : Text.Points) : (ofPoints content).IsScalar := by
  obtain ⟨text, -, hValue⟩ | ⟨text, -, hValue⟩ := ofPoints_cases content <;>
    rw [hValue] <;> trivial

namespace Yaml

/-- No leaf holds a collection. -/
inductive Datum.HasScalarLeaves : Datum → Prop
  | leaf {value : Value} (hValue : value.IsScalar) : (leaf value).HasScalarLeaves
  | sequence {items : List (Option Mark × Datum)}
      (hItems : ∀ item ∈ items, item.2.HasScalarLeaves) : (sequence items).HasScalarLeaves
  | mapping {entries : Entries}
      (hEntries : ∀ entry ∈ entries, entry.2.2.HasScalarLeaves) :
      (mapping entries).HasScalarLeaves
  | aliasOf (target : Nat) : (aliasOf target).HasScalarLeaves

abbrev ItemsHaveScalarLeaves (items : List (Option Mark × Datum)) : Prop :=
  ∀ item ∈ items, item.2.HasScalarLeaves

abbrev EntriesHaveScalarLeaves (entries : Entries) : Prop :=
  ∀ entry ∈ entries, entry.2.2.HasScalarLeaves

/-! ## Scalars -/

theorem isScalar_bytesValue (content : List Char) :
    Yields Value.IsScalar (bytesValue content) := by
  unfold bytesValue
  split
  · split
    · exact .ok trivial
    · exact .error _
  · exact .error _

theorem Yields.mapError {ε δ α : Type} {property : α → Prop} {result : Except ε α}
    (change : ε → δ) (hResult : Yields property result) :
    Yields property (result.mapError change) := by
  cases result with
  | error fault => exact .error _
  | ok value => exact .ok (hResult value rfl)

theorem isScalar_timestampValue (content : List Char) :
    Yields Value.IsScalar (timestampValue content) := by
  unfold timestampValue
  split
  · exact .error _
  · refine .mapError _ (.bind fun date _ => ?_)
    split
    · exact .ok trivial
    · refine .bind fun time _ => .bind fun offset _ => .ite (fun _ => ?_) fun _ => ?_
      · exact .bind fun moment _ => .ok trivial
      · exact .bind fun moment _ => .ok trivial

theorem isScalar_scalarValue (version : Version) (tag : Tag) (isAnchored : Bool)
    (content : Text.Points) :
    Yields Value.IsScalar (scalarValue version tag isAnchored content) := by
  unfold scalarValue
  split
  · exact .ok trivial
  · refine .bind fun value _ => .ok ?_
    split <;> trivial
  · exact .map fun _ _ => trivial
  · exact .map fun _ _ => trivial
  · exact .ok (Value.isScalar_ofPoints content)
  · exact isScalar_bytesValue _
  · exact isScalar_timestampValue _
  iterate 3 exact .ok trivial
  iterate 5 exact .error _

/-! ## Trees -/

theorem hasScalarLeaves_mergeEntries {entries merged : Entries}
    (hEntries : EntriesHaveScalarLeaves entries) (hMerged : EntriesHaveScalarLeaves merged) :
    EntriesHaveScalarLeaves (mergeEntries entries merged) := by
  fun_induction mergeEntries entries merged with
  | case1 entries => exact hEntries
  | case2 entries key mark value merged hKey ih =>
      exact ih hEntries fun entry hEntry => hMerged entry (by simp [hEntry])
  | case3 entries key mark value merged hKey ih =>
      refine ih ?_ fun entry hEntry => hMerged entry (by simp [hEntry])
      intro entry hEntry
      rcases List.mem_append.1 hEntry with hOwn | hNew
      · exact hEntries entry hOwn
      · rw [List.mem_singleton.1 hNew]
        exact hMerged (key, mark, value) (by simp)

theorem yields_blameTag {α : Type} {property : α → Prop} (tag : Tag) {result : Except Fault α}
    (hResult : Yields property result) : Yields property (blameTag tag result) := by
  unfold blameTag
  split
  iterate 3 exact hResult.mapError _
  exact hResult

/-- The readers of values make scalar leaves with a given fuel, one field for each of them. -/
structure MakesScalarLeaves (tree : NodeTree) (fuel : Nat) : Prop where
  datum : ∀ node, Yields Datum.HasScalarLeaves (datum tree fuel node)
  items : ∀ nodes {made}, ItemsHaveScalarLeaves made →
    Yields ItemsHaveScalarLeaves (items tree fuel nodes made)
  entries : ∀ nodes {made}, EntriesHaveScalarLeaves made →
    Yields EntriesHaveScalarLeaves (entries tree fuel nodes made)
  merges : ∀ isMerged nodes {made}, EntriesHaveScalarLeaves made →
    Yields EntriesHaveScalarLeaves (merges tree fuel isMerged nodes made)
  mergedMappings : ∀ nodes {made}, EntriesHaveScalarLeaves made →
    Yields EntriesHaveScalarLeaves (mergedMappings tree fuel nodes made)
  orderedEntries : ∀ nodes {made}, EntriesHaveScalarLeaves made →
    Yields EntriesHaveScalarLeaves (orderedEntries tree fuel nodes made)

namespace MakesScalarLeaves

variable {tree : NodeTree} {fuel : Nat} {made : Entries}

theorem datum_succ (hMakes : MakesScalarLeaves tree fuel) (node : Node) :
    Yields Datum.HasScalarLeaves (Yaml.datum tree (fuel + 1) node) := by
  cases node with
  | aliasOf target =>
      rw [Yaml.datum]
      split
      · exact .ok (.aliasOf target)
      · exact hMakes.datum _
  | scalar mark tag isAnchored content =>
      exact .map fun value hValue =>
        .leaf (isScalar_scalarValue tree.version tag isAnchored content value hValue)
  | sequence mark tag nodes =>
      have hItems : Yields Datum.HasScalarLeaves
          ((Yaml.items tree fuel nodes []).map .sequence) :=
        .map fun items hMade => .sequence (hMakes.items nodes (by simp) items hMade)
      unfold Yaml.datum
      dsimp only
      split
      iterate 4 exact yields_blameTag _ hItems
      · exact .map fun entries hMade =>
          .mapping (hMakes.orderedEntries nodes (by simp) entries hMade)
      · refine .map fun items _ => .sequence fun item hItem => ?_
        obtain ⟨original, -, rfl⟩ := List.mem_map.1 hItem
        exact .leaf trivial
      · exact .error _
  | mapping mark tag nodes =>
      have hEntries : Yields Datum.HasScalarLeaves (do
          let merged ← Yaml.merges tree fuel false nodes []
          let own ← Yaml.entries tree fuel nodes []
          return .mapping (mergeEntries own merged)) :=
        .bind fun merged hMerged => .bind fun own hOwn => .ok (.mapping
          (hasScalarLeaves_mergeEntries (hMakes.entries nodes (by simp) own hOwn)
            (hMakes.merges false nodes (by simp) merged hMerged)))
      unfold Yaml.datum
      dsimp only
      split
      iterate 4 exact yields_blameTag _ hEntries
      · exact .map fun _ _ => .leaf trivial
      · exact .error _

theorem items_succ (hMakes : MakesScalarLeaves tree fuel) (nodes : List Node)
    {made : List (Option Mark × Datum)} (hMade : ItemsHaveScalarLeaves made) :
    Yields ItemsHaveScalarLeaves (Yaml.items tree (fuel + 1) nodes made) := by
  cases nodes with
  | nil => exact .ok fun item hItem => hMade item (List.mem_reverse.1 hItem)
  | cons node nodes =>
      rw [Yaml.items]
      split
      · exact .error _
      · next value hValue =>
        exact hMakes.items nodes (List.forall_mem_cons.2 ⟨hMakes.datum node value hValue, hMade⟩)

theorem entries_succ (hMakes : MakesScalarLeaves tree fuel) (nodes : List (Node × Node))
    (hMade : EntriesHaveScalarLeaves made) :
    Yields EntriesHaveScalarLeaves (Yaml.entries tree (fuel + 1) nodes made) := by
  cases nodes with
  | nil => exact .ok fun entry hEntry => hMade entry (List.mem_reverse.1 hEntry)
  | cons entry nodes =>
      obtain ⟨keyNode, valueNode⟩ := entry
      rw [Yaml.entries]
      split
      · exact hMakes.entries nodes hMade
      · split
        · exact .error _
        · split
          · exact .error _
          · next value hValue =>
            split
            · exact .error _
            · split
              · exact .error _
              · exact hMakes.entries nodes
                  (List.forall_mem_cons.2 ⟨hMakes.datum valueNode value hValue, hMade⟩)

theorem merges_succ (hMakes : MakesScalarLeaves tree fuel) (isMerged : Bool)
    (nodes : List (Node × Node)) (hMade : EntriesHaveScalarLeaves made) :
    Yields EntriesHaveScalarLeaves (Yaml.merges tree (fuel + 1) isMerged nodes made) := by
  cases nodes with
  | nil => exact .ok hMade
  | cons entry nodes =>
      obtain ⟨keyNode, valueNode⟩ := entry
      rw [Yaml.merges]
      split
      · exact hMakes.merges isMerged nodes hMade
      · split
        · exact .error _
        · split
          · split
            · exact .error _
            · next merged hMerged =>
              exact hMakes.merges true nodes (hMakes.mergedMappings _ hMade merged hMerged)
          · split
            · exact .error _
            · next merged hMerged =>
              exact hMakes.merges _ nodes (hMakes.mergedMappings _ hMade merged hMerged)
          · exact .error _

theorem mergedMappings_succ (hMakes : MakesScalarLeaves tree fuel) (nodes : List Node)
    (hMade : EntriesHaveScalarLeaves made) :
    Yields EntriesHaveScalarLeaves (Yaml.mergedMappings tree (fuel + 1) nodes made) := by
  cases nodes with
  | nil => exact .ok hMade
  | cons node nodes =>
      rw [Yaml.mergedMappings]
      split
      · split
        · next merged hMerged =>
          cases hMakes.datum _ _ hMerged with
          | mapping hEntries =>
              exact hMakes.mergedMappings nodes (hasScalarLeaves_mergeEntries hMade hEntries)
        · exact .error _
        · exact .error _
      · exact .error _

theorem orderedEntries_succ (hMakes : MakesScalarLeaves tree fuel) (nodes : List Node)
    (hMade : EntriesHaveScalarLeaves made) :
    Yields EntriesHaveScalarLeaves (Yaml.orderedEntries tree (fuel + 1) nodes made) := by
  cases nodes with
  | nil => exact .ok fun entry hEntry => hMade entry (List.mem_reverse.1 hEntry)
  | cons node nodes =>
      rw [Yaml.orderedEntries]
      split
      · split
        · exact .error _
        · exact .error _
        · next key value hKey hValue =>
          split
          · exact .error _
          · split
            · exact .error _
            · exact hMakes.orderedEntries nodes
                (List.forall_mem_cons.2 ⟨hMakes.datum _ value hValue, hMade⟩)
      · exact .error _

end MakesScalarLeaves

theorem makesScalarLeaves (tree : NodeTree) (fuel : Nat) : MakesScalarLeaves tree fuel := by
  induction fuel with
  | zero =>
      constructor
      all_goals intros; exact .error _
  | succ fuel ih =>
      constructor
      case datum => exact ih.datum_succ
      case items => exact fun nodes _ => ih.items_succ nodes
      case entries => exact fun nodes _ => ih.entries_succ nodes
      case merges => exact fun isMerged nodes _ => ih.merges_succ isMerged nodes
      case mergedMappings => exact fun nodes _ => ih.mergedMappings_succ nodes
      case orderedEntries => exact fun nodes _ => ih.orderedEntries_succ nodes

/-! ## Documents -/

namespace Document

/-- The leaves of a document and of what its aliases point to are scalars. -/
structure HasScalarLeaves (document : Document) : Prop where
  root : document.root.HasScalarLeaves
  targets : ∀ target ∈ document.targets, target.HasScalarLeaves

theorem hasScalarLeaves_ofTree (size : Nat) (tree : NodeTree) :
    Yields HasScalarLeaves (ofTree size tree) := by
  have hMakes := makesScalarLeaves tree (NodeTree.fuel size)
  unfold ofTree
  split
  · exact .ok ⟨.leaf trivial, by simp⟩
  · refine .bind fun root hRoot => .ok ⟨hMakes.datum _ root hRoot, fun target hTarget => ?_⟩
    obtain ⟨node, -, rfl⟩ := Array.mem_map.1 hTarget
    cases hNode : datum tree (NodeTree.fuel size) node with
    | error fault => exact .leaf trivial
    | ok value => exact hMakes.datum node value hNode

theorem hasScalarLeaves_load (maxDepth : Nat) (state : LoaderState) (content : List Char) :
    Yields HasScalarLeaves (load maxDepth state content).2 := by
  unfold load
  split
  · exact .error _
  · exact hasScalarLeaves_ofTree _ _

variable {document : Document}

theorem HasScalarLeaves.target (hDocument : document.HasScalarLeaves) {datum : Datum}
    (hDatum : datum.HasScalarLeaves) : (document.target datum).HasScalarLeaves := by
  unfold Document.target
  split
  · next target =>
    cases hTarget : document.targets[target]? with
    | none => exact .leaf trivial
    | some found => exact hDocument.targets found (Array.mem_of_getElem? hTarget)
  · exact hDatum

/-- The readers of an expanded value keep scalar leaves with a given fuel. -/
structure ExpandsScalarLeaves (document : Document) (fuel : Nat) : Prop where
  expand : ∀ {datum}, datum.HasScalarLeaves →
    Yields Datum.HasScalarLeaves (document.expand fuel datum)
  items : ∀ {items made}, ItemsHaveScalarLeaves items → ItemsHaveScalarLeaves made →
    Yields ItemsHaveScalarLeaves (document.expandItems fuel items made)
  entries : ∀ {entries made}, EntriesHaveScalarLeaves entries → EntriesHaveScalarLeaves made →
    Yields EntriesHaveScalarLeaves (document.expandEntries fuel entries made)

namespace ExpandsScalarLeaves

variable {fuel : Nat}

theorem expand_succ (hExpands : document.ExpandsScalarLeaves fuel)
    (hDocument : document.HasScalarLeaves) {datum : Datum} (hDatum : datum.HasScalarLeaves) :
    Yields Datum.HasScalarLeaves (document.expand (fuel + 1) datum) := by
  have hTarget := hDocument.target hDatum
  rw [Document.expand]
  cases hShape : document.target datum with
  | leaf value => exact .ok (hShape ▸ hTarget)
  | aliasOf target => exact .ok (.aliasOf target)
  | sequence items =>
      rw [hShape] at hTarget
      cases hTarget with
      | sequence hItems =>
          exact .map fun made hMade => .sequence (hExpands.items hItems (by simp) made hMade)
  | mapping entries =>
      rw [hShape] at hTarget
      cases hTarget with
      | mapping hEntries =>
          exact .map fun made hMade => .mapping (hExpands.entries hEntries (by simp) made hMade)

theorem items_succ (hExpands : document.ExpandsScalarLeaves fuel)
    {items made : List (Option Mark × Datum)} (hItems : ItemsHaveScalarLeaves items)
    (hMade : ItemsHaveScalarLeaves made) :
    Yields ItemsHaveScalarLeaves (document.expandItems (fuel + 1) items made) := by
  cases items with
  | nil => exact .ok fun item hItem => hMade item (List.mem_reverse.1 hItem)
  | cons item items =>
      obtain ⟨hFirst, hOthers⟩ := List.forall_mem_cons.1 hItems
      rw [expandItems]
      split
      · exact .error _
      · next value hValue =>
        exact hExpands.items hOthers
          (List.forall_mem_cons.2 ⟨hExpands.expand hFirst value hValue, hMade⟩)

theorem entries_succ (hExpands : document.ExpandsScalarLeaves fuel) {entries made : Entries}
    (hEntries : EntriesHaveScalarLeaves entries) (hMade : EntriesHaveScalarLeaves made) :
    Yields EntriesHaveScalarLeaves (document.expandEntries (fuel + 1) entries made) := by
  cases entries with
  | nil => exact .ok fun entry hEntry => hMade entry (List.mem_reverse.1 hEntry)
  | cons entry entries =>
      obtain ⟨hFirst, hOthers⟩ := List.forall_mem_cons.1 hEntries
      rw [expandEntries]
      split
      · exact .error _
      · next value hValue =>
        exact hExpands.entries hOthers
          (List.forall_mem_cons.2 ⟨hExpands.expand hFirst value hValue, hMade⟩)

end ExpandsScalarLeaves

theorem HasScalarLeaves.expands (hDocument : document.HasScalarLeaves) (fuel : Nat) :
    document.ExpandsScalarLeaves fuel := by
  induction fuel with
  | zero =>
      constructor
      all_goals intros; exact .error _
  | succ fuel ih =>
      exact ⟨ih.expand_succ hDocument, ih.items_succ, ih.entries_succ⟩

end Document

end Yaml

end SqlDialects
