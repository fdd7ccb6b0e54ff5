import SqlDialects.Proofs.Schema.Nearest
import SqlDialects.Proofs.Schema.Places
import SqlDialects.Proofs.Schema.Stages
import SqlDialects.Proofs.Table.Locations

/-!
# Spans of violations

A violation is reported with the span that is recorded for its path, or for the longest
beginning of it.  Records are told apart by their paths alone.  So the span is that of the
deepest part on the way to the violation if nothing else has the path of such a part
(`Schema.loadText_spans`), and a key that is written like that path can take its place.
-/

namespace SqlDialects

namespace Schema

open Yaml
open Text (Points)

/-! ## Source maps of documents -/

section

variable {file : String} {root : Datum}

theorem get?_sourceMap (file : String) (root : Datum) (path : Points) :
    (sourceMap file root).get? path = (root.lastMark? path).map (Span.ofMark file) := by
  rw [SourceMap.get?, sourceMap, SourceMap.records_foldl_add, SourceMap.empty, List.append_nil,
    List.find?_map]
  simp [Datum.lastMark?, Function.comp_def]

/-- The span that is found for a location is that of the last record under the path of the
longest beginning that has one. -/
theorem nearest?_sourceMap {location : List Step} (hPlain : ∀ step ∈ location, step.IsPlain)
    (hStart : ∀ position, location.head? ≠ some (.index position)) :
    (sourceMap file root).nearest? (locationPath location) =
      ((beginnings location).findSome? fun before => root.lastMark? (locationPath before)).map
        (Span.ofMark file) := by
  rw [SourceMap.nearest?_locationPath _ hPlain hStart]
  simp only [get?_sourceMap]
  induction beginnings location with
  | nil => rfl
  | cons before others ih =>
      cases hMark : root.lastMark? (locationPath before) <;> simp [hMark, ih]

end

/-! ## Violations -/

/-- Where a violation in a table of the list stands in its document. -/
def tablePlace (position : Nat) (fault : Violation) : List Step :=
  .key "tables" :: .index position :: fault.location

/-- A violation that is reported was found in an entry of the list of tables. -/
structure Reports (root : Datum) (violation : SchemaViolation) (position : Nat)
    (fault : Violation) : Prop where
  entry : ∃ mark part found, root.reach? [.key "tables", .index position] = some (mark, part) ∧
    Table.check .record part.toValue = .invalid found ∧ fault ∈ found
  path : violation.path = locationPath (tablePlace position fault)
  message : violation.message = fault.rule.message

theorem exists_fault_of_mem_checkEntries {map : SourceMap} {start : Nat} {entries : List Value}
    {violation : SchemaViolation} (hViolation : violation ∈ (checkEntries map start entries).2) :
    ∃ index entry found fault, entries[index]? = some entry ∧
      Table.check .record entry = .invalid found ∧ fault ∈ found ∧
        violation = ⟨locationPath (tablePlace (start + index) fault), fault.rule.message,
          map.nearest? (locationPath (tablePlace (start + index) fault))⟩ := by
  induction entries generalizing start with
  | nil => cases hViolation
  | cons entry entries ih =>
      have hLater (hMem : violation ∈ (checkEntries map (start + 1) entries).2) :
          ∃ index other found fault, (entry :: entries)[index]? = some other ∧
            Table.check .record other = .invalid found ∧ fault ∈ found ∧
              violation = ⟨locationPath (tablePlace (start + index) fault), fault.rule.message,
                map.nearest? (locationPath (tablePlace (start + index) fault))⟩ := by
        obtain ⟨index, other, found, fault, hOther, hCheck, hFault, rfl⟩ := ih hMem
        refine ⟨index + 1, other, found, fault, by simpa using hOther, hCheck, hFault, ?_⟩
        rw [show start + 1 + index = start + (index + 1) by omega]
      rw [checkEntries] at hViolation
      cases hCheck : Table.check .record entry with
      | valid table =>
          rw [hCheck] at hViolation
          exact hLater hViolation
      | invalid found =>
          rw [hCheck] at hViolation
          rcases List.mem_append.1 hViolation with hHere | hMem
          · obtain ⟨fault, hFault, rfl⟩ := List.mem_map.1 hHere
            exact ⟨0, entry, found, fault, rfl, hCheck, hFault, rfl⟩
          · exact hLater hMem

/-- The root of the document that a text stands for, without aliases. -/
def root? (state : LoaderState) (content : Points) : Option Datum :=
  match content.content with
  | .inr _ => none
  | .inl text =>
    match (Document.load maxDepth state text.toList).2 with
    | .error _ => none
    | .ok document => (document.expand (2 * maxNodeCount + 2) document.root).toOption

theorem hasScalarLeaves_of_root? {state : LoaderState} {content : Points} {root : Datum}
    (hRoot : root? state content = some root) : root.HasScalarLeaves := by
  unfold root? at hRoot
  split at hRoot
  · cases hRoot
  · next text _ =>
    split at hRoot
    · cases hRoot
    · next document hDocument =>
      have hLeaves := Document.hasScalarLeaves_load maxDepth state text.toList document hDocument
      cases hExpanded : document.expand (2 * maxNodeCount + 2) document.root with
      | error fault => simp [hExpanded, Except.toOption] at hRoot
      | ok expanded =>
          obtain rfl : expanded = root := by simpa [hExpanded, Except.toOption] using hRoot
          exact (hLeaves.expands _).expand hLeaves.root expanded hExpanded

theorem exists_entries_of_tables {map : SourceMap} {root : Value}
    {violations : List SchemaViolation} (hTables : tables map root = .error (.invalid violations)) :
    ∃ entries, root.get? "tables" = some (.list entries) ∧
      violations = (checkEntries map 0 entries).2 := by
  unfold tables at hTables
  split at hTables
  · next entries hEntries =>
    refine ⟨entries, hEntries, ?_⟩
    cases hCheck : checkEntries map 0 entries with
    | mk made found =>
        rw [hCheck] at hTables
        cases found with
        | nil => cases hTables
        | cons first found => simpa [eq_comm] using hTables
  · cases hTables

theorem exists_root_of_loadText {state : LoaderState} {file : String} {content : Points}
    {violations : List SchemaViolation}
    (hLoaded : (loadText state file content).2 = .error (.invalid violations)) :
    ∃ root entries, root? state content = some root ∧
      root.toValue.get? "tables" = some (.list entries) ∧
        violations = (checkEntries (sourceMap file root) 0 entries).2 := by
  have hFails := loadText_eq_error_iff.1 hLoaded
  generalize hResult : SchemaFault.invalid violations = result at hFails
  cases hFails with
  | text hText => cases hResult
  | illFormed hText hHalf => cases hResult
  | reading hContent hText hDocument =>
      next fault => cases fault <;> cases hResult
  | document hContent hText hDocument hNull hFault =>
      cases hFault with
      | oversized hCounted => cases hResult
      | key hCounted hRoot hKeys => cases hResult
      | tables hCounted hRoot hKeys hTables =>
          next root =>
          obtain ⟨entries, hEntries, hViolations⟩ := exists_entries_of_tables (hResult ▸ hTables)
          refine ⟨root, entries, ?_, hEntries, hViolations⟩
          rw [root?, hContent, Points.content_ofString]
          simp only [hDocument, hRoot, Except.toOption]

/-- A span is that of the last record under the path of the longest beginning of the place of
its violation.  If other parts of the document are kept apart from that place, it is the
place of the deepest part there, and they are if all keys are plain. -/
theorem loadText_spans {state : LoaderState} {file : String} {content : Points}
    {violations : List SchemaViolation}
    (hLoaded : (loadText state file content).2 = .error (.invalid violations)) :
    ∃ root, root? state content = some root ∧ ∀ violation ∈ violations, ∃ position fault,
      Reports root violation position fault ∧
        violation.span = ((beginnings (tablePlace position fault)).findSome? fun before =>
          root.lastMark? (locationPath before)).map (Span.ofMark file) ∧
        (root.KeepsApart (tablePlace position fault) →
          violation.span =
            (root.nearestMark? (tablePlace position fault)).map (Span.ofMark file)) ∧
        (root.hasPlainKeys = true → root.KeepsApart (tablePlace position fault)) := by
  obtain ⟨root, entries, hRoot, hEntries, rfl⟩ := exists_root_of_loadText hLoaded
  refine ⟨root, hRoot, fun violation hViolation => ?_⟩
  obtain ⟨position, entry, found, fault, hEntry, hCheck, hFault, rfl⟩ :=
    exists_fault_of_mem_checkEntries hViolation
  rw [Nat.zero_add]
  have hLocation : ∀ step ∈ fault.location, step.IsPlain := by
    have hPlain := (Table.explains_check .record entry).plain
    rw [hCheck] at hPlain
    exact hPlain fault hFault
  have hPlace : ∀ step ∈ tablePlace position fault, step.IsPlain := by
    intro step hStep
    rcases List.mem_cons.1 hStep with rfl | hStep
    · rfl
    · rcases List.mem_cons.1 hStep with rfl | hStep
      · trivial
      · exact hLocation step hStep
  have hSpan : (sourceMap file root).nearest? (locationPath (tablePlace position fault)) = _ :=
    nearest?_sourceMap hPlace (by simp [tablePlace])
  obtain ⟨mark, part, hReach, rfl⟩ :=
    Datum.exists_reach?_of_getElem? (hasScalarLeaves_of_root? hRoot) hEntries hEntry
  refine ⟨position, fault, ⟨⟨mark, part, found, hReach, hCheck, hFault⟩, rfl, rfl⟩, hSpan,
    fun hApart => ?_, fun hKeys => Datum.keepsApart_of_hasPlainKeys hKeys hPlace⟩
  rw [hSpan, Datum.findSome?_lastMark? hApart]

/-! ## Two texts -/

/-- A table without fields. -/
def fieldlessText : String :=
  "tables: [\x7bname: t, fields: []\x7d]\n"

/-- A table without fields, and a key with the text of the path to them. -/
def collidingText : String :=
  fieldlessText ++ "'tables[0].fields': 1\n"

/-- Where the fields of the first table stand. -/
def firstFieldsPlace : List Step :=
  [.key "tables", .index 0, .key "fields"]

/-- The violation of a list of fields that has none. -/
def fieldlessViolation (line column : Int) : SchemaViolation :=
  ⟨"tables[0].fields", (Rule.listTooShort 1 0).message, some ⟨"<string>", line, column⟩⟩

theorem loadText_spans_fieldlessText :
    (loadText {} "<string>" fieldlessText).2 = .error (.invalid [fieldlessViolation 1 20]) ∧
      ∃ root, root? {} fieldlessText = some root ∧ ∃ position fault,
        Reports root (fieldlessViolation 1 20) position fault ∧
          root.KeepsApart (tablePlace position fault) ∧
            some ⟨"<string>", 1, 20⟩ =
              (root.nearestMark? (tablePlace position fault)).map (Span.ofMark "<string>") := by
  have hLoaded : (loadText {} "<string>" fieldlessText).2 =
      .error (.invalid [fieldlessViolation 1 20]) := fault?_eq_some_iff.1 (by decide +kernel)
  have hKeys : (root? {} fieldlessText).map Datum.hasPlainKeys = some true := by decide +kernel
  obtain ⟨root, hRoot, hSpans⟩ := loadText_spans hLoaded
  obtain ⟨position, fault, hReports, -, hNearest, hApart⟩ := hSpans _ (List.mem_singleton.2 rfl)
  rw [hRoot] at hKeys
  have hKept := hApart (Option.some.inj hKeys)
  exact ⟨hLoaded, root, hRoot, position, fault, hReports, hKept, hNearest hKept⟩

/-- A violation may have the span of a part that is not on the way to it. -/
theorem loadText_collidingText :
    (loadText {} "<string>" collidingText).2 = .error (.invalid [fieldlessViolation 2 1]) ∧
      ∃ root, root? {} collidingText = some root ∧
        (fieldlessViolation 2 1).path = locationPath firstFieldsPlace ∧
          (root.nearestMark? firstFieldsPlace).map (Span.ofMark "<string>") =
            some ⟨"<string>", 1, 20⟩ ∧
          ∀ before ∈ beginnings firstFieldsPlace,
            (root.mark? before).map (Span.ofMark "<string>") ≠ (fieldlessViolation 2 1).span := by
  have hLoaded : (loadText {} "<string>" collidingText).2 =
      .error (.invalid [fieldlessViolation 2 1]) := fault?_eq_some_iff.1 (by decide +kernel)
  have hSpans : (root? {} collidingText).map (fun root =>
      ((root.nearestMark? firstFieldsPlace).map (Span.ofMark "<string>"),
        (beginnings firstFieldsPlace).map fun before =>
          (root.mark? before).map (Span.ofMark "<string>"))) =
      some (some ⟨"<string>", 1, 20⟩,
        [some ⟨"<string>", 1, 20⟩, some ⟨"<string>", 1, 10⟩, some ⟨"<string>", 1, 1⟩]) := by
    decide +kernel
  obtain ⟨root, hRoot, hPlaces⟩ := Option.map_eq_some_iff.1 hSpans
  obtain ⟨hNearest, hOnTheWay⟩ := Prod.mk.inj hPlaces
  refine ⟨hLoaded, root, hRoot, by decide +kernel, hNearest, fun before hBefore hSpan => ?_⟩
  have hMem : (fieldlessViolation 2 1).span ∈ (beginnings firstFieldsPlace).map fun before =>
      (root.mark? before).map (Span.ofMark "<string>") := List.mem_map.2 ⟨before, hBefore, hSpan⟩
  rw [hOnTheWay] at hMem
  revert hMem
  decide +kernel

end Schema

end SqlDialects
