import SqlDialects.Proofs.Schema.Spans

/-!
# The entries of a schema

Every entry of the list of tables is checked by itself.  A document gives a table for each
entry, or it gives no table and all violations of all entries, each under the index of its
own entry.  The texts of the keys are needed before any entry is looked at, so a document
with a key that has none gives neither (`loadText_entries`).
-/

namespace SqlDialects

namespace Schema

open Yaml
open Text (Points)

/-! ## All entries -/

/-- The errors of an entry, in the order in which its violations were found. -/
def entryErrors (map : SourceMap) (position : Nat) (checked : Checked Table) : List SchemaError :=
  checked.violations.map fun violation =>
    let path := violation.location.foldl Step.extend
      (.ofString ("tables[" ++ Number.natText position ++ "]"))
    ⟨"INVALID_TABLE", path ++ ": " ++ violation.rule.message, some path, map.nearest? path⟩

/-- The errors of all entries, in their order. -/
def allErrors (map : SourceMap) (start : Nat) (entries : List Value) : List SchemaError :=
  (entries.zipIdx start).flatMap fun (entry, position) =>
    entryErrors map position (Table.check .record entry)

section

variable {map : SourceMap} {start : Nat} {entries : List Value} {tables : List Table}

theorem locationPath_entry (position : Nat) (location : List Step) :
    locationPath (.key "tables" :: .index position :: location) =
      location.foldl Step.extend (.ofString ("tables[" ++ Number.natText position ++ "]")) := by
  rw [locationPath, List.foldl_cons, List.foldl_cons]
  congr 1
  simp [Step.extend, ← Points.toList_inj]

theorem errors_entryViolations (map : SourceMap) (position : Nat) (found : List Violation) :
    (SchemaFault.invalid (entryViolations map position found)).errors =
      entryErrors map position (.invalid found) := by
  simp [SchemaFault.errors, entryViolations, entryErrors, Checked.violations, locationPath_entry]

/-- Nothing that was found is lost, and everything has the index of its entry. -/
theorem errors_checkEntries (map : SourceMap) (start : Nat) (entries : List Value) :
    (SchemaFault.invalid (checkEntries map start entries).2).errors =
      allErrors map start entries := by
  induction entries generalizing start with
  | nil => rfl
  | cons entry entries ih =>
      have hRest := ih (start + 1)
      rw [allErrors] at hRest
      rw [checkEntries, allErrors, List.zipIdx_cons, List.flatMap_cons, ← hRest]
      cases hCheck : Table.check .record entry with
      | valid table => simp [entryErrors, Checked.violations, hCheck]
      | invalid found =>
          simp only [hCheck, ← errors_entryViolations]
          simp [SchemaFault.errors]

theorem checkEntries_eq_nil_iff (map : SourceMap) (start : Nat) (entries : List Value)
    (tables : List Table) :
    checkEntries map start entries = (tables, []) ↔
      entries.map (Table.check .record) = tables.map .valid := by
  induction entries generalizing start tables with
  | nil => cases tables <;> simp [checkEntries]
  | cons entry entries ih =>
      rw [checkEntries]
      cases hCheck : Table.check .record entry with
      | valid table =>
          cases tables with
          | nil => simp
          | cons first tables =>
              have hRest := ih (start + 1) tables
              cases hLater : checkEntries map (start + 1) entries with
              | mk made found =>
                  rw [hLater, Prod.mk.injEq] at hRest
                  simp only [List.map_cons, hCheck, List.cons.injEq, Checked.valid.injEq,
                    Prod.mk.injEq, and_assoc, hRest]
      | invalid found =>
          -- An entry that fails has at least one violation.
          have hSome : found ≠ [] := by
            have hReason := (Table.explains_check .record entry).reason
            rw [hCheck] at hReason
            simpa using hReason
          cases tables <;> simp [hCheck, entryViolations, hSome]

end

/-! ## Documents -/

/-- The root of a document that was read and passed the checks of its text and its nodes. -/
def safeRoot? (state : LoaderState) (content : Points) : Option Datum :=
  match content.content with
  | .inr _ => none
  | .inl text =>
    match checkText text.toList, (Document.load maxDepth state text.toList).2 with
    | .ok _, .ok document =>
      match checkNodeCount maxNodeCount document with
      | .ok _ => (document.expand (2 * maxNodeCount + 2) document.root).toOption
      | .error _ => none
    | _, _ => none

/-- All tables of a list of entries or all that is wrong with any of them. -/
structure LoadsEntries (file : String) (root : Datum) (entries : List Value)
    (result : Except SchemaFault (List Table)) : Prop where
  tables : ∀ tables, result = .ok tables ↔
    entries.map (Table.check .record) = tables.map .valid
  errors : (∀ tables : List Table, entries.map (Table.check .record) ≠ tables.map .valid) →
    ∃ violations, result = .error (.invalid violations) ∧
      (SchemaFault.invalid violations).errors = allErrors (sourceMap file root) 0 entries

section

variable {state : LoaderState} {file : String} {content : Points} {root : Datum}
  {entries : List Value}

theorem loadsEntries_tables (hEntries : root.toValue.get? "tables" = some (.list entries)) :
    LoadsEntries file root entries (tables (sourceMap file root) root.toValue) := by
  have hAll := checkEntries_eq_nil_iff (sourceMap file root) 0 entries
  have hErrors := errors_checkEntries (sourceMap file root) 0 entries
  rw [tables, hEntries]
  dsimp only
  cases hChecked : checkEntries (sourceMap file root) 0 entries with
  | mk made found =>
      rw [hChecked] at hErrors
      simp only [hChecked, Prod.mk.injEq] at hAll
      cases found with
      | nil =>
          constructor
          case tables => simpa using hAll
          case errors => exact fun hNone => absurd ((hAll made).1 ⟨rfl, rfl⟩) (hNone made)
      | cons first found =>
          constructor
          case tables => simpa using hAll
          case errors => exact fun _ => ⟨_, rfl, hErrors⟩

theorem not_loadsEntries_valueless (fault : Yaml.Fault) :
    ¬LoadsEntries file root entries (.error (.valueless fault)) := by
  intro hLoads
  by_cases hAll : ∃ tables : List Table, entries.map (Table.check .record) = tables.map .valid
  · obtain ⟨tables, hTables⟩ := hAll
    have hLoaded := (hLoads.tables tables).2 hTables
    cases hLoaded
  · obtain ⟨violations, hFault, -⟩ := hLoads.errors fun tables hTables => hAll ⟨tables, hTables⟩
    cases hFault

theorem ofDocument_of_root {document : Document} (hNull : document.root ≠ .leaf .null)
    (hCounted : checkNodeCount maxNodeCount document = .ok ())
    (hRoot : document.expand (2 * maxNodeCount + 2) document.root = .ok root) :
    ofDocument file document =
      if root.hasKeyTexts then tables (sourceMap file root) root.toValue
      else .error (.valueless .unwritableKey) := by
  rw [ofDocument_eq hNull]
  cases hKeys : root.hasKeyTexts <;>
    simp [hCounted, hRoot, hKeys, Datum.checkKeyTexts, bind, Except.bind, ofYaml]

theorem ne_null_of_expand {document : Document} {fuel : Nat}
    (hRoot : document.expand fuel document.root = .ok root) {key : String} {value : Value}
    (hValue : root.toValue.get? key = some value) : document.root ≠ .leaf .null := by
  intro hNull
  rw [hNull] at hRoot
  cases fuel with
  | zero => cases hRoot
  | succ fuel =>
      obtain rfl : Datum.leaf .null = root := by
        simpa [Document.expand, Document.target] using hRoot
      cases hValue

theorem loadText_of_safeRoot (hRoot : safeRoot? state content = some root)
    {key : String} {value : Value} (hValue : root.toValue.get? key = some value) :
    (loadText state file content).2 =
      if root.hasKeyTexts then tables (sourceMap file root) root.toValue
      else .error (.valueless .unwritableKey) := by
  unfold safeRoot? at hRoot
  split at hRoot
  · cases hRoot
  · next text hContent =>
    obtain rfl := Points.ofString_of_content hContent
    split at hRoot
    · next checked document hText hDocument =>
      split at hRoot
      · next counted hCounted =>
        cases hExpanded : document.expand (2 * maxNodeCount + 2) document.root with
        | error fault => simp [hExpanded, Except.toOption] at hRoot
        | ok expanded =>
            obtain rfl : expanded = root := by simpa [hExpanded, Except.toOption] using hRoot
            rw [← ofDocument_of_root (ne_null_of_expand hExpanded hValue) hCounted hExpanded,
              loadText_ofString hText]
            cases hLoad : Document.load maxDepth state text.toList with
            | mk after result =>
                rw [hLoad] at hDocument
                obtain rfl : result = .ok document := hDocument
                rfl
      · cases hRoot
    · cases hRoot

/-- A document that passes the checks and has a list of tables gives a table for each entry if
every entry is one, and otherwise every violation of every entry, if and only if all its keys
have texts.  A document with another key gives nothing. -/
theorem loadText_entries (hRoot : safeRoot? state content = some root)
    (hEntries : root.toValue.get? "tables" = some (.list entries)) :
    (LoadsEntries file root entries (loadText state file content).2 ↔ root.hasKeyTexts = true) ∧
      (root.hasKeyTexts = false →
        (loadText state file content).2 = .error (.valueless .unwritableKey)) := by
  rw [loadText_of_safeRoot hRoot hEntries]
  cases hKeys : root.hasKeyTexts with
  | false => simp [not_loadsEntries_valueless]
  | true => simp [loadsEntries_tables hEntries]

end

/-- A table, and another one without fields. -/
def mixedText : String :=
  "tables: [\x7bname: t, fields: [\x7bname: a, type: int\x7d]\x7d, \x7bname: u, fields: []\x7d]\n"

theorem loadText_entries_mixedText :
    (loadText {} "<string>" mixedText).2 = .error (.invalid
        [⟨"tables[1].fields", (Rule.listTooShort 1 0).message, some ⟨"<string>", 1, 63⟩⟩]) ∧
      ∃ root entries, safeRoot? {} mixedText = some root ∧
        root.toValue.get? "tables" = some (.list entries) ∧
          LoadsEntries "<string>" root entries (loadText {} "<string>" mixedText).2 := by
  have hParts : (safeRoot? {} mixedText).map (fun root =>
      (root.hasKeyTexts, (root.toValue.get? "tables").map Value.typeName)) =
        some (true, some "list") := by decide +kernel
  refine ⟨fault?_eq_some_iff.1 (by decide +kernel), ?_⟩
  obtain ⟨root, hRoot, hPair⟩ := Option.map_eq_some_iff.1 hParts
  obtain ⟨hKeys, hNamed⟩ := Prod.mk.inj hPair
  obtain ⟨value, hValue, hList⟩ := Option.map_eq_some_iff.1 hNamed
  cases value with
  | list entries => exact ⟨root, entries, hRoot, hValue, (loadText_entries hRoot hValue).1.2 hKeys⟩
  | _ => simp [Value.typeName] at hList

/-- A document with an empty list of tables and another key. -/
def keyedDocument (key : Int) : Document where
  root := .mapping [(.text "tables", some ⟨0, 0⟩, .sequence []),
    (.integer key, some ⟨1, 0⟩, .leaf (.integer 1))]
  targets := #[]

/-- No entry is at fault, and still the document gives no list of tables. -/
def LosesTables (document : Document) : Prop :=
  checkNodeCount maxNodeCount document = .ok () ∧
    ∃ root, document.expand (2 * maxNodeCount + 2) document.root = .ok root ∧
      root.toValue.get? "tables" = some (.list []) ∧
        ¬LoadsEntries "<string>" root [] (ofDocument "<string>" document)

theorem losesTables_keyedDocument {key : Int} (hKey : Number.isWritable key = false) :
    LosesTables (keyedDocument key) := by
  have hText : (Value.integer key).toText.toOption = none := by
    simp [Value.toText, Value.shown, Value.integerShown, hKey, Except.map, Except.toOption]
  have hKeys : (keyedDocument key).root.hasKeyTexts = false := by
    simp [keyedDocument, Datum.hasKeyTexts, Datum.entriesHaveKeyTexts, hasKeyText, hText]
  have hTables : (keyedDocument key).root.toValue.get? "tables" = some (.list []) := by
    have hOther : keyText (.integer key) = "" := by simp [keyText, hText]
    have hNamed : keyText (.text "tables") = "tables" := rfl
    rw [keyedDocument, Datum.toValue, Datum.get?_entryValues]
    simp [Datum.part?, hOther, hNamed, Datum.toValue, Datum.itemValues]
  have hExpanded : (keyedDocument key).expand (2 * maxNodeCount + 2) (keyedDocument key).root =
      .ok (keyedDocument key).root := rfl
  have hNull : (keyedDocument key).root ≠ .leaf .null := by simp [keyedDocument]
  refine ⟨rfl, (keyedDocument key).root, hExpanded, hTables, ?_⟩
  rw [ofDocument_of_root hNull rfl hExpanded, hKeys]
  exact not_loadsEntries_valueless .unwritableKey

theorem losesTables_keyedDocument_maxDigits :
    LosesTables (keyedDocument (Nat.pow 10 Number.maxDigits)) := by
  apply losesTables_keyedDocument
  rw [Number.isWritable, Int.natAbs_natCast, decide_eq_false_iff_not]
  exact Nat.lt_irrefl _

end Schema

end SqlDialects
