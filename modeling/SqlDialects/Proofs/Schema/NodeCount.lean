import Mathlib.Algebra.BigOperators.Group.List.Basic
import Mathlib.Algebra.GroupWithZero.Nat
import Mathlib.Data.List.Perm.Basic
import SqlDialects.Proofs.Yaml.Leaves
import SqlDialects.Schema.Safety

/-!
# Counting nodes

A value is counted by taking one node at a time from those that wait and letting its
children wait in its place.  The nodes that were taken and all nodes of what still waits
add up to the nodes of the whole value.  So the count goes beyond a limit if and only if
the value has more nodes than that (`checkNodeCount_tree`), whatever is taken first.
-/

namespace SqlDialects

namespace Yaml

/-! ## Trees -/

namespace Datum

/-- A finite tree of mappings, sequences and scalars, in which nothing is an alias. -/
inductive IsTree : Datum → Prop
  | leaf {value : Value} (hValue : value.IsScalar) : (leaf value).IsTree
  | sequence {items : List (Option Mark × Datum)} (hItems : ∀ item ∈ items, item.2.IsTree) :
      (sequence items).IsTree
  | mapping {entries : Entries} (hEntries : ∀ entry ∈ entries, entry.2.2.IsTree) :
      (mapping entries).IsTree

mutual

/-- The number of nodes of a value: itself, its items and the values of its entries at
every depth, but no keys. -/
def nodeCount : Datum → Nat
  | leaf _ | aliasOf _ => 1
  | sequence items => 1 + itemCount items
  | mapping entries => 1 + entryCount entries

def itemCount : List (Option Mark × Datum) → Nat
  | [] => 0
  | (_, datum) :: items => datum.nodeCount + itemCount items

def entryCount : Entries → Nat
  | [] => 0
  | (_, _, datum) :: entries => datum.nodeCount + entryCount entries

end

/-- What stands directly in a value. -/
def parts : Datum → List Datum
  | sequence items => items.map Prod.snd
  | mapping entries => entries.map fun entry => entry.2.2
  | _ => []

/-- The number of nodes of several values. -/
def total (values : List Datum) : Nat :=
  (values.map nodeCount).sum

@[simp] theorem total_nil : total [] = 0 := rfl

@[simp] theorem total_cons (datum : Datum) (values : List Datum) :
    total (datum :: values) = datum.nodeCount + total values := by
  simp [total]

theorem total_append (first second : List Datum) :
    total (first ++ second) = total first + total second := by
  simp [total]

theorem total_perm {first second : List Datum} (hPerm : first.Perm second) :
    total first = total second :=
  (hPerm.map nodeCount).sum_eq

theorem itemCount_eq (items : List (Option Mark × Datum)) :
    itemCount items = total (items.map Prod.snd) := by
  induction items with
  | nil => rfl
  | cons item items ih => simp [itemCount, ih]

theorem entryCount_eq (entries : Entries) :
    entryCount entries = total (entries.map fun entry => entry.2.2) := by
  induction entries with
  | nil => rfl
  | cons entry entries ih => simp [entryCount, ih]

theorem nodeCount_eq (datum : Datum) : datum.nodeCount = 1 + total datum.parts := by
  cases datum with
  | leaf value => rfl
  | aliasOf target => rfl
  | sequence items => rw [nodeCount, itemCount_eq, parts]
  | mapping entries => rw [nodeCount, entryCount_eq, parts]

end Datum

/-! ## What a document stands for -/

namespace Document

open Datum

variable {document : Document} {fuel : Nat}

/-- A value of a document stands for a tree if following its aliases ends in that tree. -/
def StandsFor (document : Document) (datum tree : Datum) : Prop :=
  ∃ fuel, document.expand fuel datum = .ok tree

theorem forall₂_of_expandItems {items made values : List (Option Mark × Datum)}
    (hValues : document.expandItems fuel items made = .ok values) :
    ∃ later, values = made.reverse ++ later ∧
      List.Forall₂ document.StandsFor (items.map Prod.snd) (later.map Prod.snd) := by
  induction items generalizing fuel made with
  | nil =>
      cases fuel with
      | zero => cases hValues
      | succ fuel =>
          cases hValues
          exact ⟨[], by simp, .nil⟩
  | cons item items ih =>
      obtain ⟨mark, datum⟩ := item
      cases fuel with
      | zero => cases hValues
      | succ fuel =>
          rw [expandItems] at hValues
          cases hDatum : document.expand fuel datum with
          | error fault =>
              rw [hDatum] at hValues
              cases hValues
          | ok value =>
              rw [hDatum] at hValues
              obtain ⟨later, rfl, hLater⟩ := ih hValues
              exact ⟨(mark, value) :: later, by simp, .cons ⟨fuel, hDatum⟩ hLater⟩

theorem expandItems_of_expandEntries {entries made values : Entries}
    (hValues : document.expandEntries fuel entries made = .ok values) :
    document.expandItems fuel (entries.map Prod.snd) (made.map Prod.snd) =
      .ok (values.map Prod.snd) := by
  induction entries generalizing fuel made with
  | nil =>
      cases fuel with
      | zero => cases hValues
      | succ fuel =>
          cases hValues
          simp [expandItems]
  | cons entry entries ih =>
      obtain ⟨key, mark, datum⟩ := entry
      cases fuel with
      | zero => cases hValues
      | succ fuel =>
          rw [expandEntries] at hValues
          rw [List.map_cons, expandItems]
          cases hDatum : document.expand fuel datum with
          | error fault =>
              rw [hDatum] at hValues
              cases hValues
          | ok value =>
              rw [hDatum] at hValues
              exact ih hValues

theorem StandsFor.children {datum tree : Datum} (hTree : document.StandsFor datum tree) :
    List.Forall₂ document.StandsFor (document.children datum) tree.parts := by
  obtain ⟨fuel, hExpand⟩ := hTree
  cases fuel with
  | zero => cases hExpand
  | succ fuel =>
      rw [expand] at hExpand
      unfold Document.children
      cases hTarget : document.target datum with
      | leaf value =>
          rw [hTarget] at hExpand
          cases hExpand
          exact .nil
      | aliasOf target =>
          rw [hTarget] at hExpand
          cases hExpand
          exact .nil
      | sequence items =>
          simp only [hTarget] at hExpand
          cases hItems : document.expandItems fuel items [] with
          | error fault =>
              rw [hItems] at hExpand
              cases hExpand
          | ok values =>
              rw [hItems] at hExpand
              cases hExpand
              obtain ⟨later, rfl, hLater⟩ := forall₂_of_expandItems hItems
              exact hLater
      | mapping entries =>
          simp only [hTarget] at hExpand
          cases hEntries : document.expandEntries fuel entries [] with
          | error fault =>
              rw [hEntries] at hExpand
              cases hExpand
          | ok values =>
              rw [hEntries] at hExpand
              cases hExpand
              obtain ⟨later, hValues, hLater⟩ :=
                forall₂_of_expandItems (expandItems_of_expandEntries hEntries)
              have hParts : (Datum.mapping values).parts = later.map Prod.snd := by
                simpa [parts, Function.comp_def] using congrArg (List.map Prod.snd) hValues
              simpa [hParts] using hLater

/-! ## Counting -/

/-- Whether there are too many nodes, and the number of nodes that were looked at. -/
structure Count where
  isExceeded : Bool
  taken : Nat
deriving DecidableEq, Repr

/-- Counts up to a limit.  The first of the nodes that wait is taken, and `join` puts its
children among the others. -/
def count (document : Document) (join : List Datum → List Datum → List Datum) :
    (limit : Nat) → (waiting : List Datum) → Count
  | _, [] => ⟨false, 0⟩
  | 0, _ :: _ => ⟨true, 1⟩
  | limit + 1, datum :: rest =>
    let later := document.count join limit (join (document.children datum) rest)
    { later with taken := later.taken + 1 }

/-- All nodes that wait go on waiting, in any order. -/
def KeepsAll (join : List Datum → List Datum → List Datum) : Prop :=
  ∀ children rest, (join children rest).Perm (children ++ rest)

/-- Counting where children are taken before the nodes that wait already. -/
theorem exceeds_eq_count (document : Document) (limit : Nat) (waiting : List Datum) :
    document.exceeds limit waiting = (document.count (· ++ ·) limit waiting).isExceeded := by
  fun_induction document.exceeds limit waiting with
  | case1 limit => cases limit <;> rfl
  | case2 datum rest => rfl
  | case3 limit datum rest ih => rw [count, ih]

/-- What is counted does not depend on the order: it is the nodes of the trees that the
waiting values stand for, and one more than the limit at most. -/
theorem count_eq {join : List Datum → List Datum → List Datum} (hJoin : KeepsAll join)
    (limit : Nat) {waiting trees : List Datum}
    (hTrees : List.Forall₂ document.StandsFor waiting trees) :
    document.count join limit waiting =
      ⟨decide (limit < total trees), min (total trees) (limit + 1)⟩ := by
  induction limit generalizing waiting trees with
  | zero =>
      cases hTrees with
      | nil => rfl
      | @cons datum tree rest others hFirst hRest =>
          have hPositive : 0 < total (tree :: others) := by
            rw [total_cons, nodeCount_eq]
            omega
          simp only [count, hPositive, decide_true, Count.mk.injEq, true_and]
          omega
  | succ limit ih =>
      cases hTrees with
      | nil => rfl
      | @cons datum tree rest others hFirst hRest =>
          -- The node that is taken off is the one by which the others are less.
          obtain ⟨joined, hJoined, hPerm⟩ := List.perm_comp_forall₂
            (hJoin (document.children datum) rest) (List.rel_append hFirst.children hRest)
          have hTotal : total (tree :: others) = 1 + total joined := by
            rw [total_perm hPerm, total_append, total_cons, nodeCount_eq]
            omega
          rw [count, ih hJoined, hTotal]
          simp only [Count.mk.injEq, decide_eq_decide]
          omega

/-! ## Trees without aliases -/

/-- A value is expanded to itself, given twice as much fuel as it has nodes. -/
def IsExpanded (document : Document) (datum : Datum) : Prop :=
  ∀ fuel, 2 * datum.nodeCount ≤ fuel → document.expand fuel datum = .ok datum

theorem expandItems_of_isExpanded {items : List (Option Mark × Datum)}
    (hItems : ∀ item ∈ items, document.IsExpanded item.2) (made : List (Option Mark × Datum))
    (hFuel : 2 * itemCount items + 1 ≤ fuel) :
    document.expandItems fuel items made = .ok (made.reverse ++ items) := by
  obtain ⟨fuel, rfl⟩ := Nat.exists_eq_succ_of_ne_zero (by omega : fuel ≠ 0)
  induction items generalizing fuel made with
  | nil => simp [expandItems]
  | cons item items ih =>
      obtain ⟨mark, datum⟩ := item
      obtain ⟨hFirst : document.IsExpanded datum, hOthers⟩ := List.forall_mem_cons.1 hItems
      have hPositive := nodeCount_eq datum
      rw [itemCount] at hFuel
      obtain ⟨fuel, rfl⟩ := Nat.exists_eq_succ_of_ne_zero (by omega : fuel ≠ 0)
      rw [expandItems, hFirst _ (by omega)]
      simp [ih hOthers _ fuel (by omega)]

theorem expandEntries_of_isExpanded {entries : Entries}
    (hEntries : ∀ entry ∈ entries, document.IsExpanded entry.2.2) (made : Entries)
    (hFuel : 2 * entryCount entries + 1 ≤ fuel) :
    document.expandEntries fuel entries made = .ok (made.reverse ++ entries) := by
  obtain ⟨fuel, rfl⟩ := Nat.exists_eq_succ_of_ne_zero (by omega : fuel ≠ 0)
  induction entries generalizing fuel made with
  | nil => simp [expandEntries]
  | cons entry entries ih =>
      obtain ⟨key, mark, datum⟩ := entry
      obtain ⟨hFirst : document.IsExpanded datum, hOthers⟩ := List.forall_mem_cons.1 hEntries
      have hPositive := nodeCount_eq datum
      rw [entryCount] at hFuel
      obtain ⟨fuel, rfl⟩ := Nat.exists_eq_succ_of_ne_zero (by omega : fuel ≠ 0)
      rw [expandEntries, hFirst _ (by omega)]
      simp [ih hOthers _ fuel (by omega)]

theorem isExpanded_of_isTree {tree : Datum} (hTree : tree.IsTree) : document.IsExpanded tree := by
  induction hTree with
  | leaf hValue =>
      intro fuel hFuel
      rw [nodeCount] at hFuel
      obtain ⟨fuel, rfl⟩ := Nat.exists_eq_succ_of_ne_zero (by omega : fuel ≠ 0)
      rfl
  | sequence hItems ih =>
      intro fuel hFuel
      rw [nodeCount] at hFuel
      obtain ⟨fuel, rfl⟩ := Nat.exists_eq_succ_of_ne_zero (by omega : fuel ≠ 0)
      simp only [expand, target]
      rw [expandItems_of_isExpanded ih [] (by omega)]
      rfl
  | mapping hEntries ih =>
      intro fuel hFuel
      rw [nodeCount] at hFuel
      obtain ⟨fuel, rfl⟩ := Nat.exists_eq_succ_of_ne_zero (by omega : fuel ≠ 0)
      simp only [expand, target]
      rw [expandEntries_of_isExpanded ih [] (by omega)]
      rfl

theorem standsFor_of_isTree {tree : Datum} (hTree : tree.IsTree) :
    document.StandsFor tree tree :=
  ⟨_, isExpanded_of_isTree hTree _ (Nat.le_refl _)⟩

end Document

end Yaml

open Yaml Document

/-! ## The limit -/

/-- The check of a limit refuses a document if and only if it has more nodes.  It counts
one node after the other, and any order of counting ends in the same way, after all nodes
or after the first one too many. -/
structure CountsTo (limit nodes : Nat) (document : Document) : Prop where
  verdict : checkNodeCount limit document =
    if limit < nodes then .error .tooManyNodes else .ok ()
  loop : ∀ waiting, document.exceeds limit waiting =
    (document.count (· ++ ·) limit waiting).isExceeded
  counted : ∀ join, KeepsAll join → document.count join limit [document.root] =
    ⟨decide (limit < nodes), min nodes (limit + 1)⟩

/-- Every finite tree is a document, and whatever documents stand for it, with or without
aliases, the limit on their nodes is exact. -/
theorem checkNodeCount_tree {tree : Datum} (hTree : tree.IsTree) (limit : Nat) :
    (∀ targets, (Document.mk tree targets).StandsFor tree tree) ∧
      ∀ document : Document, document.StandsFor document.root tree →
        CountsTo limit tree.nodeCount document := by
  refine ⟨fun targets => standsFor_of_isTree hTree, fun document hRoot => ?_⟩
  have hCounted (join) (hJoin : KeepsAll join) :=
    count_eq hJoin limit (.cons hRoot .nil)
  simp only [Datum.total_cons, Datum.total_nil, Nat.add_zero] at hCounted
  refine ⟨?_, exceeds_eq_count document limit, hCounted⟩
  have hOwn := hCounted (· ++ ·) fun children rest => .refl _
  rw [checkNodeCount, exceeds_eq_count, hOwn]
  simp

/-- A field, with a mapping in which the key is no node. -/
def sharedField : Datum :=
  .mapping [(.text "name", none, .leaf (.text "x")), (.text "type", none, .leaf (.text "int"))]

/-- Two tables that share their field; seven nodes are written and ten are counted. -/
def sharedFieldDocument : Document where
  root := .mapping [(.text "tables", none,
    .sequence [(none, .sequence [(none, .aliasOf 0)]), (none, .sequence [(none, .aliasOf 0)])])]
  targets := #[sharedField]

def sharedFieldTree : Datum :=
  .mapping [(.text "tables", none,
    .sequence [(none, .sequence [(none, sharedField)]), (none, .sequence [(none, sharedField)])])]

theorem isTree_sharedFieldTree : sharedFieldTree.IsTree := by
  have hField : sharedField.IsTree := by
    refine .mapping fun entry hEntry => ?_
    simp only [List.mem_cons, List.not_mem_nil, or_false] at hEntry
    rcases hEntry with rfl | rfl <;> exact .leaf trivial
  simp only [sharedFieldTree]
  refine .mapping fun entry hEntry => ?_
  obtain rfl := List.mem_singleton.1 hEntry
  refine .sequence fun item hItem => ?_
  simp only [List.mem_cons, List.not_mem_nil, or_false, or_self] at hItem
  subst hItem
  refine .sequence fun item hItem => ?_
  obtain rfl := List.mem_singleton.1 hItem
  exact hField

theorem checkNodeCount_tree_sharedField :
    sharedFieldTree.IsTree ∧
      (∀ targets, (Document.mk sharedFieldTree targets).StandsFor sharedFieldTree sharedFieldTree) ∧
      sharedFieldDocument.StandsFor sharedFieldDocument.root sharedFieldTree ∧
      CountsTo 9 10 sharedFieldDocument ∧ CountsTo 10 10 sharedFieldDocument := by
  have hStandsFor : sharedFieldDocument.StandsFor sharedFieldDocument.root sharedFieldTree :=
    ⟨20, rfl⟩
  exact ⟨isTree_sharedFieldTree, (checkNodeCount_tree isTree_sharedFieldTree 9).1, hStandsFor,
    (checkNodeCount_tree isTree_sharedFieldTree 9).2 _ hStandsFor,
    (checkNodeCount_tree isTree_sharedFieldTree 10).2 _ hStandsFor⟩

end SqlDialects
