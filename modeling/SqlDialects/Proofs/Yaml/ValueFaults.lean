import SqlDialects.Proofs.Yaml.TreeFaults
import SqlDialects.Yaml.Document

/-!
# Faults of values

A tree without a value breaks a rule of the grammar, or it has a scalar without a value, a
key that cannot be one, an ordered mapping that repeats a key, or no end.
-/

namespace SqlDialects.Yaml

namespace NodeTree

/-- A node of a tree: its root, what an alias may stand for, or a part of such a node. -/
inductive Holds (tree : NodeTree) : Node → Prop
  | root {node : Node} (hRoot : tree.root = some node) : tree.Holds node
  | named (position : Nat) : tree.Holds ((tree.nodes[position]?).getD default)
  | item {mark : Mark} {tag : Tag} {nodes : List Node} {node : Node}
      (hSequence : tree.Holds (.sequence mark tag nodes)) (hNode : node ∈ nodes) :
      tree.Holds node
  | key {mark : Mark} {tag : Tag} {nodes : List (Node × Node)} {keyNode valueNode : Node}
      (hMapping : tree.Holds (.mapping mark tag nodes)) (hEntry : (keyNode, valueNode) ∈ nodes) :
      tree.Holds keyNode
  | value {mark : Mark} {tag : Tag} {nodes : List (Node × Node)} {keyNode valueNode : Node}
      (hMapping : tree.Holds (.mapping mark tag nodes)) (hEntry : (keyNode, valueNode) ∈ nodes) :
      tree.Holds valueNode

/-- A node is the key of an entry, or an alias there stands for it. -/
def HoldsKey (tree : NodeTree) (node : Node) : Prop :=
  ∃ mark tag nodes keyNode valueNode, tree.Holds (.mapping mark tag nodes) ∧
    (keyNode, valueNode) ∈ nodes ∧ node = target tree.nodes keyNode

/-- Why a tree has no value although it keeps the grammar. -/
inductive Causes (tree : NodeTree) : Fault → Prop
  | scalar {mark : Mark} {tag : Tag} {isAnchored : Bool} {content : Text.Points} {fault : Fault}
      (hNode : tree.Holds (.scalar mark tag isAnchored content))
      (hFault : scalarValue tree.version tag isAnchored content = .error fault) :
      tree.Causes fault
  | key {node : Node} {fuel : Nat} {key : Datum} {fault : Fault} (hNode : tree.HoldsKey node)
      (hKey : datum tree fuel node = .ok key) (hFault : keyOf key = .error fault) :
      tree.Causes fault
  | repeatedEntry {mark : Mark} {nodes : List Node}
      (hNode : tree.Holds (.sequence mark .orderedMapping nodes)) : tree.Causes .repeatedEntry
  | endless : tree.Causes .endless

/-- A fault that a tree may fail with when it is given a value. -/
def MayFail (tree : NodeTree) (fault : Fault) : Prop :=
  fault = .malformed ∨ tree.Causes fault

section

variable {tree : NodeTree} {α : Type}

@[simp] theorem mayFail_malformed (tree : NodeTree) : tree.MayFail .malformed :=
  Or.inl rfl

@[simp] theorem mayFail_endless (tree : NodeTree) : tree.MayFail .endless :=
  Or.inr .endless

theorem failsAs_blameTag (tag : Tag) {result : Except Fault α}
    (hResult : FailsAs tree.MayFail result) : FailsAs tree.MayFail (blameTag tag result) := by
  have hBlamed : FailsAs tree.MayFail (result.mapError fun _ => Fault.malformed) := by
    cases result with
    | error fault => exact (failsAs_error _).2 (mayFail_malformed tree)
    | ok value => exact failsAs_ok value
  unfold blameTag
  split
  · exact hBlamed
  · exact hBlamed
  · exact hBlamed
  · exact hResult

theorem Holds.target {node : Node} (hNode : tree.Holds node) :
    tree.Holds (target tree.nodes node) := by
  unfold Yaml.target
  split
  · exact .named _
  · exact hNode

end

/-- How the readers of values fail with a given fuel, one field for each of them. -/
structure FailsValues (tree : NodeTree) (fuel : Nat) : Prop where
  datum : ∀ {node : Node}, tree.Holds node → FailsAs tree.MayFail (datum tree fuel node)
  items : ∀ {nodes : List Node} (made : List (Option Mark × Datum)),
    (∀ node ∈ nodes, tree.Holds node) → FailsAs tree.MayFail (items tree fuel nodes made)
  entries : ∀ {mark : Mark} {tag : Tag} {all nodes : List (Node × Node)} (made : Entries),
    tree.Holds (.mapping mark tag all) → nodes ⊆ all →
      FailsAs tree.MayFail (entries tree fuel nodes made)
  merges : ∀ {mark : Mark} {tag : Tag} {all nodes : List (Node × Node)} (isMerged : Bool)
    (made : Entries), tree.Holds (.mapping mark tag all) → nodes ⊆ all →
      FailsAs tree.MayFail (merges tree fuel isMerged nodes made)
  mergedMappings : ∀ {nodes : List Node} (made : Entries), (∀ node ∈ nodes, tree.Holds node) →
    FailsAs tree.MayFail (mergedMappings tree fuel nodes made)
  orderedEntries : ∀ {mark : Mark} {all nodes : List Node} (made : Entries),
    tree.Holds (.sequence mark .orderedMapping all) → nodes ⊆ all →
      FailsAs tree.MayFail (orderedEntries tree fuel nodes made)

section

variable {tree : NodeTree} {fuel : Nat}

theorem FailsValues.datum_succ (hValues : tree.FailsValues fuel) {node : Node}
    (hNode : tree.Holds node) : FailsAs tree.MayFail (Yaml.datum tree (fuel + 1) node) := by
  cases node with
  | aliasOf target =>
      rw [Yaml.datum]
      split
      · simp
      · exact hValues.datum (.named target)
  | scalar mark tag isAnchored content =>
      rw [Yaml.datum, failsAs_map]
      exact fun fault hFault => Or.inr (.scalar hNode hFault)
  | sequence mark tag nodes =>
      have hItems : FailsAs tree.MayFail (Yaml.items tree fuel nodes []) :=
        hValues.items [] fun node hItem => .item hNode hItem
      unfold Yaml.datum
      dsimp only
      split
      iterate 4 exact failsAs_blameTag _ (by simpa using hItems)
      · simpa using hValues.orderedEntries [] hNode (List.Subset.refl nodes)
      · simpa using hItems
      · simp
  | mapping mark tag nodes =>
      have hEntries : FailsAs tree.MayFail (Yaml.entries tree fuel nodes []) :=
        hValues.entries [] hNode (List.Subset.refl nodes)
      have hMerges : FailsAs tree.MayFail (Yaml.merges tree fuel false nodes []) :=
        hValues.merges false [] hNode (List.Subset.refl nodes)
      unfold Yaml.datum
      dsimp only
      split
      iterate 4 exact failsAs_blameTag _ (by simp [hEntries, hMerges])
      · simpa using hEntries
      · simp

theorem FailsValues.items_succ (hValues : tree.FailsValues fuel) {nodes : List Node}
    (made : List (Option Mark × Datum)) (hNodes : ∀ node ∈ nodes, tree.Holds node) :
    FailsAs tree.MayFail (Yaml.items tree (fuel + 1) nodes made) := by
  cases nodes with
  | nil => simp [Yaml.items]
  | cons node nodes =>
      rw [Yaml.items]
      split
      · next fault hFault =>
        simpa using hValues.datum (hNodes node (by simp)) fault hFault
      · exact hValues.items _ fun other hOther => hNodes other (by simp [hOther])

theorem FailsValues.plainKey (hValues : tree.FailsValues fuel) {node : Node}
    (hNode : tree.Holds node) : FailsAs tree.MayFail (Yaml.datum tree fuel (plainKey node)) := by
  unfold Yaml.plainKey
  split
  · cases fuel <;> simp [Yaml.datum, scalarValue]
  · exact hValues.datum hNode

theorem mayFail_of_keyOf {keyNode : Node} {key : Datum} {fault : Fault}
    (hNode : tree.HoldsKey keyNode)
    (hKey : Yaml.datum tree fuel (Yaml.plainKey keyNode) = .ok key)
    (hFault : keyOf key = .error fault) : tree.MayFail fault := by
  suffices hDatum : Yaml.datum tree fuel keyNode = .ok key from
    Or.inr (.key hNode hDatum hFault)
  unfold Yaml.plainKey at hKey
  split at hKey
  · cases fuel with
    | zero => cases hKey
    | succ fuel =>
        simp only [Yaml.datum, scalarValue, Except.map] at hKey
        cases hKey
        cases hFault
  · exact hKey

theorem FailsValues.entries_succ (hValues : tree.FailsValues fuel) {mark : Mark} {tag : Tag}
    {all nodes : List (Node × Node)} (made : Entries)
    (hMapping : tree.Holds (.mapping mark tag all)) (hNodes : nodes ⊆ all) :
    FailsAs tree.MayFail (Yaml.entries tree (fuel + 1) nodes made) := by
  cases nodes with
  | nil => simp [Yaml.entries]
  | cons entry nodes =>
      obtain ⟨keyNode, valueNode⟩ := entry
      obtain ⟨hEntry, hOthers⟩ := List.cons_subset.1 hNodes
      have hKeyNode : tree.HoldsKey (Yaml.target tree.nodes keyNode) :=
        ⟨mark, tag, all, keyNode, valueNode, hMapping, hEntry, rfl⟩
      rw [Yaml.entries]
      split
      · exact hValues.entries made hMapping hOthers
      · split
        · next fault hFault =>
          simpa using hValues.plainKey (Holds.key hMapping hEntry).target fault hFault
        · next key hKey =>
          split
          · next fault hFault =>
            simpa using hValues.datum (.value hMapping hEntry) fault hFault
          · split
            · next fault hFault => simpa using mayFail_of_keyOf hKeyNode hKey hFault
            · split
              · simp
              · exact hValues.entries _ hMapping hOthers

theorem FailsValues.merges_succ (hValues : tree.FailsValues fuel) {mark : Mark} {tag : Tag}
    {all nodes : List (Node × Node)} (isMerged : Bool) (made : Entries)
    (hMapping : tree.Holds (.mapping mark tag all)) (hNodes : nodes ⊆ all) :
    FailsAs tree.MayFail (Yaml.merges tree (fuel + 1) isMerged nodes made) := by
  cases nodes with
  | nil => simp [Yaml.merges]
  | cons entry nodes =>
      obtain ⟨keyNode, valueNode⟩ := entry
      obtain ⟨hEntry, hOthers⟩ := List.cons_subset.1 hNodes
      have hTarget := (Holds.value hMapping hEntry).target
      rw [Yaml.merges]
      split
      · exact hValues.merges isMerged made hMapping hOthers
      · split
        · simp
        · split
          · next hShape =>
            rw [hShape] at hTarget
            have hMerged := hValues.mergedMappings made (List.forall_mem_singleton.2 hTarget)
            split
            · next fault hFault => simpa using hMerged fault hFault
            · exact hValues.merges true _ hMapping hOthers
          · next content hShape =>
            rw [hShape] at hTarget
            have hMerged := hValues.mergedMappings made
              (fun node hNode => Holds.item hTarget hNode)
            split
            · next fault hFault => simpa using hMerged fault hFault
            · exact hValues.merges _ _ hMapping hOthers
          · simp

theorem FailsValues.mergedMappings_succ (hValues : tree.FailsValues fuel) {nodes : List Node}
    (made : Entries) (hNodes : ∀ node ∈ nodes, tree.Holds node) :
    FailsAs tree.MayFail (Yaml.mergedMappings tree (fuel + 1) nodes made) := by
  cases nodes with
  | nil => simp [Yaml.mergedMappings]
  | cons node nodes =>
      have hTarget := (hNodes node (by simp)).target
      rw [Yaml.mergedMappings]
      split
      · next hShape =>
        rw [hShape] at hTarget
        split
        · exact hValues.mergedMappings _ fun other hOther => hNodes other (by simp [hOther])
        · simp
        · next fault hFault => simpa using hValues.datum hTarget fault hFault
      · simp

theorem FailsValues.orderedEntries_succ (hValues : tree.FailsValues fuel) {mark : Mark}
    {all nodes : List Node} (made : Entries)
    (hSequence : tree.Holds (.sequence mark .orderedMapping all)) (hNodes : nodes ⊆ all) :
    FailsAs tree.MayFail (Yaml.orderedEntries tree (fuel + 1) nodes made) := by
  cases nodes with
  | nil => simp [Yaml.orderedEntries]
  | cons node nodes =>
      obtain ⟨hNode, hOthers⟩ := List.cons_subset.1 hNodes
      have hTarget := (Holds.item hSequence hNode).target
      rw [Yaml.orderedEntries]
      split
      · next keyNode valueNode hShape =>
        rw [hShape] at hTarget
        have hEntry : (keyNode, valueNode) ∈ [(keyNode, valueNode)] := by simp
        split
        · next hFault =>
          simpa using hValues.datum (Holds.key hTarget hEntry).target _ hFault
        · next hFault _ =>
          simpa using hValues.datum (Holds.value hTarget hEntry) _ hFault
        · next key value hKey hValue =>
          split
          · next fault hFault =>
            have hKeyNode : tree.HoldsKey (Yaml.target tree.nodes keyNode) :=
              ⟨_, _, _, keyNode, valueNode, hTarget, hEntry, rfl⟩
            exact (failsAs_error fault).2 (Or.inr (.key hKeyNode hKey hFault))
          · split
            · exact (failsAs_error _).2 (Or.inr (.repeatedEntry hSequence))
            · exact hValues.orderedEntries _ hSequence hOthers
      · simp

theorem failsValues (tree : NodeTree) (fuel : Nat) : tree.FailsValues fuel := by
  induction fuel with
  | zero =>
      constructor
      case datum => exact fun _ => by simp [Yaml.datum]
      case items => exact fun _ _ => by simp [Yaml.items]
      case entries => exact fun _ _ _ => by simp [Yaml.entries]
      case merges => exact fun _ _ _ _ => by simp [Yaml.merges]
      case mergedMappings => exact fun _ _ => by simp [Yaml.mergedMappings]
      case orderedEntries => exact fun _ _ _ => by simp [Yaml.orderedEntries]
  | succ fuel ih =>
      constructor
      case datum => exact ih.datum_succ
      case items => exact ih.items_succ
      case entries => exact ih.entries_succ
      case merges => exact ih.merges_succ
      case mergedMappings => exact ih.mergedMappings_succ
      case orderedEntries => exact ih.orderedEntries_succ

/-- A document has a value, or one of the causes takes it away. -/
theorem failsAs_ofTree (size : Nat) (tree : NodeTree) :
    FailsAs tree.MayFail (Document.ofTree size tree) := by
  unfold Document.ofTree
  split
  · simp
  · next root hRoot =>
    simpa using (tree.failsValues (NodeTree.fuel size)).datum (.root hRoot)

end

end NodeTree

end SqlDialects.Yaml
