import SqlDialects.Proofs.Yaml.Expansion
import SqlDialects.Schema.Loader

/-!
# Stages of loading

Loading a schema goes through stages, and each of them can end it: the checks of the text,
reading the document, the count of its nodes, the texts of its keys, and the tables.
-/

namespace SqlDialects.Schema

open Yaml
open Text (Points)

/-- How a document that is not empty fails to be a schema. -/
inductive FailsDocument (file : String) (document : Document) : SchemaFault → Prop
  | oversized {fault : SafetyFault}
      (hCounted : checkNodeCount maxNodeCount document = .error fault) :
      FailsDocument file document (.refused fault)
  | key {root : Datum} (hCounted : checkNodeCount maxNodeCount document = .ok ())
      (hRoot : document.expand (2 * maxNodeCount + 2) document.root = .ok root)
      (hKeys : root.hasKeyTexts = false) :
      FailsDocument file document (.valueless .unwritableKey)
  | tables {root : Datum} {fault : SchemaFault}
      (hCounted : checkNodeCount maxNodeCount document = .ok ())
      (hRoot : document.expand (2 * maxNodeCount + 2) document.root = .ok root)
      (hKeys : root.hasKeyTexts = true)
      (hTables : tables (sourceMap file root) root.toValue = .error fault) :
      FailsDocument file document fault

/-- How a text fails to be a schema. -/
inductive Fails (state : LoaderState) (file : String) (content : Points) : SchemaFault → Prop
  | text {fault : SafetyFault} (hText : checkText content.shown.toList = .error fault) :
      Fails state file content (.refused fault)
  | illFormed (hText : checkText content.shown.toList = .ok ())
      (hHalf : content.isWellFormed = false) : Fails state file content .malformed
  | reading {text : String} {fault : Yaml.Fault} (hContent : content = text)
      (hText : checkText text.toList = .ok ())
      (hDocument : (Document.load maxDepth state text.toList).2 = .error fault) :
      Fails state file content (ofYaml fault)
  | document {text : String} {document : Document} {fault : SchemaFault}
      (hContent : content = text) (hText : checkText text.toList = .ok ())
      (hDocument : (Document.load maxDepth state text.toList).2 = .ok document)
      (hNull : document.root ≠ .leaf .null) (hFault : FailsDocument file document fault) :
      Fails state file content fault

section

variable {ε δ α : Type}

/-- The fault of a step that failed. -/
def fault? : Except ε α → Option ε
  | .error fault => some fault
  | .ok _ => none

theorem fault?_eq_some_iff {result : Except ε α} {fault : ε} :
    fault? result = some fault ↔ result = .error fault := by
  cases result <;> simp [fault?]

theorem exists_ok_of_fault? {result : Except ε α} (hResult : fault? result = none) :
    ∃ value, result = .ok value := by
  cases result with
  | error fault => cases hResult
  | ok value => exact ⟨value, rfl⟩

variable (change : ε → δ)

@[simp] theorem mapError_error (fault : ε) :
    (Except.error fault : Except ε α).mapError change = .error (change fault) :=
  rfl

@[simp] theorem mapError_ok (value : α) :
    (Except.ok value : Except ε α).mapError change = .ok value :=
  rfl

end

variable {state : LoaderState} {file : String} {content : Points} {document : Document}
  {fault : SchemaFault}

/-- The count of the nodes bounds what the expansion needs. -/
theorem exists_root_of_checkNodeCount (hCounted : checkNodeCount maxNodeCount document = .ok ()) :
    ∃ root, document.expand (2 * maxNodeCount + 2) document.root = .ok root := by
  have hExceeds : document.exceeds maxNodeCount [document.root] = false := by
    unfold checkNodeCount at hCounted
    split at hCounted
    · cases hCounted
    · next hExceeds => simpa using hExceeds
  exact Document.expand_of_not_exceeds hExceeds (Nat.le_add_right (2 * maxNodeCount) 2)

theorem ofDocument_eq_ok_of_null (hNull : document.root = .leaf .null) :
    ofDocument file document = .ok [] := by
  rw [ofDocument, hNull]

theorem ofDocument_eq (hNull : document.root ≠ .leaf .null) :
    ofDocument file document = (do
      (checkNodeCount maxNodeCount document).mapError .refused
      let root ← (document.expand (2 * maxNodeCount + 2) document.root).mapError ofYaml
      root.checkKeyTexts.mapError ofYaml
      tables (sourceMap file root) root.toValue) := by
  unfold ofDocument
  split
  · contradiction
  · rfl

theorem ofDocument_eq_error_iff (hNull : document.root ≠ .leaf .null) :
    ofDocument file document = .error fault ↔ FailsDocument file document fault := by
  rw [ofDocument_eq hNull]
  constructor
  · intro hError
    cases hCounted : checkNodeCount maxNodeCount document with
    | error refused =>
        rw [hCounted] at hError
        cases hError
        exact .oversized hCounted
    | ok counted =>
        obtain ⟨root, hRoot⟩ := exists_root_of_checkNodeCount hCounted
        simp only [hCounted, hRoot, Datum.checkKeyTexts, mapError_ok, bind, Except.bind] at hError
        cases hKeys : root.hasKeyTexts with
        | false =>
            rw [hKeys] at hError
            cases hError
            exact .key hCounted hRoot hKeys
        | true =>
            rw [hKeys] at hError
            exact .tables hCounted hRoot hKeys hError
  · intro hFails
    cases hFails with
    | oversized hCounted => simp [hCounted, bind, Except.bind]
    | key hCounted hRoot hKeys =>
        simp [hCounted, hRoot, hKeys, Datum.checkKeyTexts, bind, Except.bind, ofYaml]
    | tables hCounted hRoot hKeys hTables =>
        simp [hCounted, hRoot, hKeys, hTables, Datum.checkKeyTexts, bind, Except.bind]

theorem tables_eq_error {map : SourceMap} {root : Value}
    (hTables : tables map root = .error fault) :
    fault = .missingTables ∨ ∃ violations, fault = .invalid violations := by
  unfold tables at hTables
  split at hTables
  · split at hTables
    · cases hTables
    · cases hTables
      exact .inr ⟨_, rfl⟩
  · cases hTables
    exact .inl rfl

/-! ## The stages of a text -/

theorem loadText_of_refused {refused : SafetyFault}
    (hText : checkText content.shown.toList = .error refused) :
    loadText state file content = (state, .error (.refused refused)) := by
  simp only [loadText, hText]

theorem loadText_of_illFormed (hText : checkText content.shown.toList = .ok ())
    (hHalf : content.isWellFormed = false) :
    loadText state file content = (state, .error .malformed) := by
  simp [loadText, hText, Points.content, hHalf]

theorem loadText_ofString {text : String} (hText : checkText text.toList = .ok ()) :
    loadText state file text =
      match Document.load maxDepth state text.toList with
      | (state, .error fault) => (state, .error (ofYaml fault))
      | (state, .ok document) => (state, ofDocument file document) := by
  cases hLoad : Document.load maxDepth state text.toList with
  | mk after result =>
      cases result <;>
        simp only [loadText, Points.shown_ofString, hText, Points.content_ofString, hLoad]

theorem fails_of_loadText (hError : (loadText state file content).2 = .error fault) :
    Fails state file content fault := by
  cases hText : checkText content.shown.toList with
  | error refused =>
      rw [loadText_of_refused hText] at hError
      cases hError
      exact .text hText
  | ok passed =>
      rcases Points.ofString_or_illFormed content with ⟨text, rfl⟩ | hHalf
      · rw [Points.shown_ofString] at hText
        rw [loadText_ofString hText] at hError
        split at hError
        · next after other hDocument =>
          cases hError
          exact .reading rfl hText (by rw [hDocument])
        · next after document hDocument =>
          have hNull : document.root ≠ .leaf .null := by
            intro hNull
            rw [ofDocument_eq_ok_of_null hNull] at hError
            cases hError
          exact .document rfl hText (by rw [hDocument]) hNull
            ((ofDocument_eq_error_iff hNull).1 hError)
      · rw [loadText_of_illFormed hText hHalf] at hError
        cases hError
        exact .illFormed hText hHalf

theorem loadText_eq_error_iff :
    (loadText state file content).2 = .error fault ↔ Fails state file content fault := by
  refine ⟨fails_of_loadText, fun hFails => ?_⟩
  cases hFails with
  | text hText => rw [loadText_of_refused hText]
  | illFormed hText hHalf => rw [loadText_of_illFormed hText hHalf]
  | @reading text fault hContent hText hDocument =>
      subst hContent
      cases hLoad : Document.load maxDepth state text.toList with
      | mk after result =>
          rw [hLoad] at hDocument
          obtain rfl : result = .error fault := hDocument
          rw [loadText_ofString hText, hLoad]
  | @document text document _ hContent hText hDocument hNull hFault =>
      subst hContent
      cases hLoad : Document.load maxDepth state text.toList with
      | mk after result =>
          rw [hLoad] at hDocument
          obtain rfl : result = .ok document := hDocument
          rw [loadText_ofString hText, hLoad]
          exact (ofDocument_eq_error_iff hNull).2 hFault

end SqlDialects.Schema
