import SqlDialects.Proofs.Schema.Stages
import SqlDialects.Proofs.Yaml.ValueFaults
import SqlDialects.Service.Answer

/-!
# Faults of schemas

The loader reports what is wrong with a schema, save for a fault that keeps its document
from having a value or a key from having a text: that one leaves the loader as it is, and a
request is left without a response (`Schema.loadText_leaks`).
-/

namespace SqlDialects.Schema

open Yaml
open Text (Points)

/-- What the loader means to give: tables, or an error that it reports. -/
def IsReported : Except SchemaFault (List Table) → Prop
  | .error (.valueless _) => False
  | _ => True

/-- A fault that no step of loading a text takes up: reading the document ends in it and it
is no break of the grammar, or a key of a document that passes all checks has no text. -/
inductive Leaks (state : LoaderState) (content : Points) : Yaml.Fault → Prop
  | document {text : String} {fault : Yaml.Fault} (hContent : content = text)
      (hText : checkText text.toList = .ok ())
      (hDocument : (Document.load maxDepth state text.toList).2 = .error fault)
      (hFault : fault ≠ .malformed) : Leaks state content fault
  | key {text : String} {document : Document} {root : Datum} (hContent : content = text)
      (hText : checkText text.toList = .ok ())
      (hDocument : (Document.load maxDepth state text.toList).2 = .ok document)
      (hCounted : checkNodeCount maxNodeCount document = .ok ())
      (hRoot : document.expand (2 * maxNodeCount + 2) document.root = .ok root)
      (hKeys : root.hasKeyTexts = false) : Leaks state content .unwritableKey

/-- Where such a fault comes from: the tree of the document, the values of its nodes, or the
texts of its keys. -/
inductive Stems (state : LoaderState) (content : Points) (fault : Yaml.Fault) : Prop
  | tree {text : String} (hContent : content = text) (hFault : fault.IsEarly)
      (hTree : (NodeTree.ofText maxDepth state text.toList).2 = .error fault)
  | value {text : String} {tree : NodeTree} (hContent : content = text)
      (hTree : (NodeTree.ofText maxDepth state text.toList).2 = .ok tree)
      (hCause : tree.Causes fault)
  | key {text : String} {document : Document} (hContent : content = text)
      (hFault : fault = .unwritableKey)
      (hDocument : (Document.load maxDepth state text.toList).2 = .ok document)

variable {state : LoaderState} {file : String} {content : Points} {fault : Yaml.Fault}

theorem isReported_iff {result : Except SchemaFault (List Table)} :
    IsReported result ↔ ∀ fault, result ≠ .error (.valueless fault) := by
  constructor
  · rintro hReported fault rfl
    exact hReported
  · intro hNever
    unfold IsReported
    split
    · next fault => exact hNever fault rfl
    · trivial

theorem stems_of_load {text : String}
    (hDocument : (Document.load maxDepth state text.toList).2 = .error fault)
    (hFault : fault ≠ .malformed) : Stems state text fault := by
  have hTrees := NodeTree.failsEarly_ofText maxDepth state text.toList
  unfold Document.load at hDocument
  cases hTree : NodeTree.ofText maxDepth state text.toList with
  | mk after result =>
      rw [hTree] at hDocument hTrees
      cases result with
      | error other =>
          obtain rfl : other = fault := by simpa using hDocument
          exact .tree rfl (by simpa using hTrees) (by rw [hTree])
      | ok tree =>
          rcases NodeTree.failsAs_ofTree text.toList.length tree fault hDocument with
            rfl | hCause
          · exact absurd rfl hFault
          · exact .value rfl (by rw [hTree]) hCause

theorem Leaks.stems (hLeaks : Leaks state content fault) : Stems state content fault := by
  cases hLeaks with
  | document hContent hText hDocument hFault => exact hContent ▸ stems_of_load hDocument hFault
  | key hContent hText hDocument hCounted hRoot hKeys => exact .key hContent rfl hDocument

theorem tables_ne_valueless {map : SourceMap} {root : Value} :
    tables map root ≠ .error (.valueless fault) := by
  intro hTables
  rcases tables_eq_error hTables with hMissing | ⟨violations, hInvalid⟩
  · cases hMissing
  · cases hInvalid

theorem loadText_eq_valueless_iff :
    (loadText state file content).2 = .error (.valueless fault) ↔ Leaks state content fault := by
  rw [loadText_eq_error_iff]
  constructor
  · intro hFails
    generalize hResult : SchemaFault.valueless fault = result at hFails
    cases hFails with
    | text hText => cases hResult
    | illFormed hText hHalf => cases hResult
    | reading hContent hText hDocument =>
        next other =>
        cases other <;> cases hResult <;> exact .document hContent hText hDocument (by simp)
    | document hContent hText hDocument hNull hFault =>
        cases hFault with
        | oversized hCounted => cases hResult
        | key hCounted hRoot hKeys =>
            cases hResult
            exact .key hContent hText hDocument hCounted hRoot hKeys
        | tables hCounted hRoot hKeys hTables =>
            exact absurd (hResult ▸ hTables) tables_ne_valueless
  · intro hLeaks
    cases hLeaks with
    | document hContent hText hDocument hFault =>
        have hYaml : ofYaml fault = .valueless fault := by
          cases fault with
          | malformed => exact absurd rfl hFault
          | _ => rfl
        exact hYaml ▸ .reading hContent hText hDocument
    | key hContent hText hDocument hCounted hRoot hKeys =>
        refine .document hContent hText hDocument ?_ (.key hCounted hRoot hKeys)
        intro hNull
        rw [hNull] at hRoot
        cases hRoot
        cases hKeys

/-! ## The endpoint -/

theorem refusal_eq_document_iff {reason : Service.Refusal} :
    Service.refusal reason = .error (.document fault) ↔ reason = .schema (.valueless fault) := by
  constructor
  · intro hRefusal
    unfold Service.refusal at hRefusal
    split at hRefusal
    · cases hRefusal
    · cases hRefusal
    · split at hRefusal <;> cases hRefusal
    · split at hRefusal <;> cases hRefusal
      rfl
  · rintro rfl
    rfl

theorem chosenDialect_ne_schema {settings : Settings} {name : Option Points}
    {schemaFault : SchemaFault} :
    Service.chosenDialect settings name ≠ .error (.schema schemaFault) := by
  unfold Service.chosenDialect
  split
  · simp
  · next name _ => cases Registry.builtin.get name <;> simp

theorem exists_error_of_mapM {α β ε δ : Type} {change : ε → δ} {next : α → Except ε β}
    {items : List α} {error : δ}
    (hError : (items.mapM fun item => (next item).mapError change) = .error error) :
    ∃ other, error = change other := by
  induction items with
  | nil => cases hError
  | cons item items ih =>
      rw [List.mapM_cons] at hError
      cases hItem : next item with
      | error other =>
          rw [hItem] at hError
          cases hError
          exact ⟨other, rfl⟩
      | ok value =>
          rw [hItem, mapError_ok] at hError
          cases hItems : items.mapM fun item => (next item).mapError change with
          | error other =>
              simp only [hItems, bind, Except.bind] at hError
              cases hError
              exact ih hItems
          | ok values =>
              simp only [hItems, bind, Except.bind] at hError
              cases hError

theorem createSchema_eq_schema_iff {settings : Settings} {form : Service.SchemaForm}
    {schemaFault : SchemaFault} :
    Service.createSchema settings form = .error (.schema schemaFault) ↔
      (∃ dialect, Service.chosenDialect settings form.dialect = .ok dialect) ∧
        (loadText {} "<request>" form.document).2 = .error schemaFault := by
  unfold Service.createSchema
  cases hDialect : Service.chosenDialect settings form.dialect with
  | error reason =>
      have hReason : reason ≠ .schema schemaFault := by
        rintro rfl
        exact chosenDialect_ne_schema hDialect
      simpa [bind, Except.bind] using hReason
  | ok dialect =>
      cases hTables : (loadText {} "<request>" form.document).2 with
      | error other => simp [bind, Except.bind]
      | ok tables =>
          cases hPlans : tables.mapM fun table =>
              (dialect.createTable table form.ifNotExists).mapError Service.Refusal.rendering with
          | error reason =>
              obtain ⟨other, rfl⟩ := exists_error_of_mapM hPlans
              simp [hPlans, bind, Except.bind]
          | ok plans => simp [hPlans, bind, Except.bind, pure, Except.pure]

/-- A request for a schema is left without a response because of its document exactly when
a fault leaves the loader. -/
theorem respond_createSchema_iff {settings : Settings} {form : Service.SchemaForm}
    {shown : Dialect × List CreateTablePlan → Value} :
    Service.respond (Service.createSchema settings form) shown = .error (.document fault) ↔
      (∃ dialect, Service.chosenDialect settings form.dialect = .ok dialect) ∧
        Leaks {} form.document fault := by
  rw [← loadText_eq_valueless_iff, ← createSchema_eq_schema_iff]
  cases hSchema : Service.createSchema settings form with
  | error reason =>
      rw [Service.respond, refusal_eq_document_iff]
      simp
  | ok plans => simp [Service.respond]

/-! ## The theorem -/

/-- The loader reports what is wrong unless a fault leaks.  Then that fault leaves the loader
and any request for the schema.  It stems from the tree of the document, the values of its
nodes or the texts of its keys. -/
theorem loadText_leaks (state : LoaderState) (file : String) (content : Points) :
    (IsReported (loadText state file content).2 ↔ ∀ fault, ¬Leaks state content fault) ∧
      (∀ fault, Leaks state content fault →
        (loadText state file content).2 = .error (.valueless fault) ∧
          Stems state content fault) ∧
      ∀ (settings : Settings) (form : Service.SchemaForm)
        (shown : Dialect × List CreateTablePlan → Value) (fault : Yaml.Fault),
        form.document = content →
          (Service.respond (Service.createSchema settings form) shown = .error (.document fault) ↔
            (∃ dialect, Service.chosenDialect settings form.dialect = .ok dialect) ∧
              Leaks {} content fault) := by
  refine ⟨?_, fun fault hLeaks => ⟨loadText_eq_valueless_iff.2 hLeaks, hLeaks.stems⟩, ?_⟩
  · rw [isReported_iff]
    exact forall_congr' fun fault => not_congr loadText_eq_valueless_iff
  · rintro settings form shown fault rfl
    exact respond_createSchema_iff

/-- A date on a day that its month does not have. -/
def impossibleDateText : String :=
  "tables: 2020-02-30\n"

private theorem leaks_impossibleDateText : Leaks {} impossibleDateText (.calendar .day) := by
  have hPasses : fault? (checkText impossibleDateText.toList) = none := rfl
  have hFails : fault? (Document.load maxDepth {} impossibleDateText.toList).2 =
      some (.calendar .day) := by decide +kernel
  obtain ⟨value, hText⟩ := exists_ok_of_fault? hPasses
  exact .document rfl hText (fault?_eq_some_iff.1 hFails) (by simp)

theorem loadText_leaks_impossibleDateText :
    ¬IsReported (loadText {} "<string>" impossibleDateText).2 ∧
      Stems {} impossibleDateText (.calendar .day) := by
  obtain ⟨hReported, hLeaves, -⟩ := loadText_leaks {} "<string>" impossibleDateText
  have hLeaks := leaks_impossibleDateText
  refine ⟨?_, (hLeaves _ hLeaks).2⟩
  rw [hReported]
  exact fun hNever => hNever _ hLeaks

/-- A fault of the calendar leaves the loader and leaves a request without a response. -/
theorem not_isReported_impossibleDateText :
    ¬IsReported (loadText {} "<string>" impossibleDateText).2 ∧
      ∃ (settings : Settings) (form : Service.SchemaForm), form.document = impossibleDateText ∧
        ∀ shown, Service.respond (Service.createSchema settings form) shown =
          .error (.document (.calendar .day)) := by
  constructor
  · rw [isReported_iff]
    exact fun hNever => hNever _ (loadText_eq_valueless_iff.2 leaks_impossibleDateText)
  · refine ⟨{}, ⟨some "mysql", impossibleDateText, false⟩, rfl, fun shown => ?_⟩
    refine respond_createSchema_iff.2 ⟨?_, leaks_impossibleDateText⟩
    exact exists_ok_of_fault? (show fault? (Service.chosenDialect {} (some "mysql")) = none by
      decide +kernel)

end SqlDialects.Schema
