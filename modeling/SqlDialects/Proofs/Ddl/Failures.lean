import SqlDialects.Proofs.Converter.Literals
import SqlDialects.Proofs.Ddl.Contributions
import SqlDialects.Proofs.Number.Digits

/-!
# When a table is not created

A built-in dialect that knows the head of the statement fails at the first field whose default
is not read or, on the dialect whose ids are integers, whose id it cannot make.  The default
comes first (`Dialect.createTable_failure`).
-/

namespace SqlDialects

theorem mapM_eq_error_iff {α β ε : Type} {f : α → Except ε β} {items : List α} {error : ε} :
    items.mapM f = .error error ↔
      ∃ before item after, items = before ++ item :: after ∧
        (∀ other ∈ before, ∃ value, f other = .ok value) ∧ f item = .error error := by
  induction items with
  | nil => simp [pure, Except.pure]
  | cons first others ih =>
      rw [List.mapM_cons]
      cases hFirst : f first with
      | error fault =>
          constructor
          · intro hFault
            obtain rfl : fault = error := by simpa [bind, Except.bind] using hFault
            exact ⟨[], first, others, rfl, by simp, hFirst⟩
          · rintro ⟨before, item, after, hItems, hBefore, hItem⟩
            cases before with
            | nil =>
                obtain ⟨rfl, -⟩ := List.cons.inj hItems
                simpa [bind, Except.bind, hFirst] using hItem
            | cons head before =>
                obtain ⟨rfl, -⟩ := List.cons.inj hItems
                obtain ⟨value, hValue⟩ := hBefore first (by simp)
                simp [hFirst] at hValue
      | ok value =>
          have hOthers : (Except.ok value >>= fun value => do
              let values ← others.mapM f
              pure (value :: values)) = .error error ↔ others.mapM f = .error error := by
            cases others.mapM f <;> simp [bind, Except.bind, pure, Except.pure]
          refine hOthers.trans (ih.trans ⟨?_, ?_⟩)
          · rintro ⟨before, item, after, rfl, hBefore, hItem⟩
            exact ⟨first :: before, item, after, rfl,
              List.forall_mem_cons.2 ⟨⟨value, hFirst⟩, hBefore⟩, hItem⟩
          · rintro ⟨before, item, after, hItems, hBefore, hItem⟩
            cases before with
            | nil =>
                obtain ⟨rfl, -⟩ := List.cons.inj hItems
                simp [hFirst] at hItem
            | cons head before =>
                obtain ⟨rfl, rfl⟩ := List.cons.inj hItems
                exact ⟨before, item, after, rfl, (List.forall_mem_cons.1 hBefore).2, hItem⟩

namespace Dialect

/-! ## Fields -/

/-- The default of a field is read with an error. -/
def Rejects (dialect : Dialect) (field : FieldSpec) (error : DefaultError) : Prop :=
  ∃ literal, field.default = some literal ∧
    (dialect.converterFor field.sqlType).parseDefault field.name literal = .error error

/-- The database should make an id of a type that it makes none of. -/
def LacksId (dialect : Dialect) (field : FieldSpec) : Prop :=
  dialect = sqlite ∧ field.isGeneratedId = true ∧ field.sqlType ≠ .int ∧ field.sqlType ≠ .long

/-- How a field fails: its default goes before its id. -/
inductive FieldFails (dialect : Dialect) (field : FieldSpec) : RenderError → Prop
  | default {error : DefaultError} (hRejects : dialect.Rejects field error) :
      FieldFails dialect field (.ofDefault error)
  | id (hRead : ∀ error, ¬dialect.Rejects field error) (hLacks : dialect.LacksId field) :
      FieldFails dialect field (.unsupported "sqlite" (.generatedIdOfType field.sqlType))

variable {dialect : Dialect} {field : FieldSpec} {tableName : String}

theorem renderInteger_isOk {number : Int} (hNumber : Number.isWritable number = true) :
    ∃ text, renderInteger number = .ok text :=
  ⟨Number.integerText number, by rw [renderInteger, if_pos hNumber]⟩

theorem varchar_isOk {usual width : Nat} (hUsual : Number.isWritable usual = true)
    (hWidth : Number.isWritable width = true) : ∃ text, varchar usual width = .ok text := by
  have hNumber : ∃ text, renderInteger (if width = 0 then (usual : Int) else width) = .ok text := by
    by_cases hZero : width = 0
    · rw [if_pos hZero]
      exact renderInteger_isOk hUsual
    · rw [if_neg hZero]
      exact renderInteger_isOk hWidth
  obtain ⟨text, hText⟩ := hNumber
  exact ⟨"VARCHAR(" ++ text ++ ")", by rw [varchar, hText]; rfl⟩

theorem columnType_isOk (dialect : Dialect) (hWidth : Number.isWritable field.width = true) :
    ∃ text, dialect.columnType field = .ok text := by
  unfold columnType
  cases field.sqlType
  case string =>
      exact varchar_isOk (Number.isWritable_of_natAbs_lt 3 (by decide) (by decide)) hWidth
  case uuid =>
      exact varchar_isOk (Number.isWritable_of_natAbs_lt 3 (by decide) (by decide)) hWidth
  all_goals exact ⟨_, rfl⟩

theorem defaultText_eq_error_iff (error : RenderError) :
    dialect.defaultText field = .error error ↔
      ∃ fault, dialect.Rejects field fault ∧ error = .ofDefault fault := by
  cases hDefault : field.default with
  | none => simp [defaultText, Rejects, hDefault]
  | some literal =>
      simp only [defaultText, Rejects, defaultClause, hDefault, Option.isSome_some,
        if_true, Option.some.injEq, exists_eq_left']
      cases (dialect.converterFor field.sqlType).parseDefault field.name literal with
      | error fault => simp only [Except.error.injEq, exists_eq_left', eq_comm]
      | ok value => simp only [reduceCtorEq, false_and, exists_false]

theorem generationText_sqlite (tableName : String) (field : FieldSpec) :
    sqlite.generationText tableName field =
      if field.sqlType = .int ∨ field.sqlType = .long then .ok "PRIMARY KEY AUTOINCREMENT"
      else .error (.unsupported "sqlite" (.generatedIdOfType field.sqlType)) := by
  simp [generationText, lacksSequence, sqlite]

theorem generationText_isOk (hBuiltin : dialect ∈ builtin) (hOther : dialect ≠ sqlite)
    (tableName : String) (field : FieldSpec) :
    ∃ text, dialect.generationText tableName field = .ok text := by
  simp only [builtin, List.mem_cons, List.not_mem_nil, or_false] at hBuiltin
  rcases hBuiltin with rfl | rfl | rfl | rfl
  · exact ⟨_, by simp [generationText, lacksSequence, mysql]; rfl⟩
  · exact ⟨_, by simp [generationText, lacksSequence, postgres]; rfl⟩
  · exact absurd rfl hOther
  · exact ⟨_, by simp [generationText, lacksSequence, sqlserver]; rfl⟩

theorem identityText_eq_error_iff (error : RenderError) (hBuiltin : dialect ∈ builtin) :
    dialect.identityText tableName field = .error error ↔
      dialect.LacksId field ∧
        error = .unsupported "sqlite" (.generatedIdOfType field.sqlType) := by
  by_cases hGenerated : field.isGeneratedId = true
  · simp only [identityText, LacksId, hGenerated, if_true, true_and]
    by_cases hSqlite : dialect = sqlite
    · subst hSqlite
      rw [generationText_sqlite]
      split
      · next hInteger => simp [← not_or, hInteger]
      · next hOther =>
          simp only [ne_eq, ← not_or, hOther, not_false_eq_true, true_and, Except.error.injEq]
          exact eq_comm
    · obtain ⟨text, hText⟩ := generationText_isOk hBuiltin hSqlite tableName field
      simp [hText, hSqlite]
  · simp [identityText, LacksId, hGenerated]

theorem columnText_eq_error_iff (tableName : String) (error : RenderError)
    (hBuiltin : dialect ∈ builtin) (hWidth : Number.isWritable field.width = true) :
    dialect.columnText tableName field = .error error ↔ dialect.FieldFails field error := by
  -- The type always has a text, so only the default and the id are left to fail.
  obtain ⟨typeText, hType⟩ := columnType_isOk dialect hWidth
  have hDefault (error : RenderError) : dialect.defaultText field = .error error ↔ _ :=
    defaultText_eq_error_iff error
  have hIdentity : dialect.identityText tableName field = .error error ↔ _ :=
    identityText_eq_error_iff error hBuiltin
  simp only [columnText, hType, bind, Except.bind]
  cases hText : dialect.defaultText field with
  | error fault =>
      obtain ⟨rejection, hRejects, rfl⟩ := (hDefault fault).1 hText
      constructor
      · intro hError
        obtain rfl : RenderError.ofDefault rejection = error := by simpa using hError
        exact .default hRejects
      · rintro (⟨hOther⟩ | ⟨hRead, -⟩)
        · rw [← hText, (hDefault _).2 ⟨_, hOther, rfl⟩]
        · exact absurd hRejects (hRead rejection)
  | ok text =>
      have hRead (rejection : DefaultError) : ¬dialect.Rejects field rejection := fun hRejects => by
        simpa [hText] using (hDefault _).2 ⟨_, hRejects, rfl⟩
      have hId : dialect.FieldFails field error ↔
          dialect.identityText tableName field = .error error := by
        rw [hIdentity]
        constructor
        · rintro (⟨hRejects⟩ | ⟨-, hLacks⟩)
          · exact absurd hRejects (hRead _)
          · exact ⟨hLacks, rfl⟩
        · rintro ⟨hLacks, rfl⟩
          exact .id hRead hLacks
      rw [hId]
      cases dialect.identityText tableName field <;> simp [pure, Except.pure]

theorem contribution_eq_error_iff (error : RenderError) (hBuiltin : dialect ∈ builtin)
    (hWidth : Number.isWritable field.width = true) :
    dialect.contribution tableName field = .error error ↔ dialect.FieldFails field error := by
  rw [← columnText_eq_error_iff tableName error hBuiltin hWidth, contribution_eq]
  cases dialect.columnText tableName field <;> simp [Except.map]

/-! ## Tables -/

/-- A table is not created because of its first field that fails. -/
theorem createTable_eq_error_iff (error : RenderError) (hBuiltin : dialect ∈ builtin)
    {table : Table} {ifNotExists : Bool}
    (hHead : ifNotExists = true → dialect.capabilities.createIfNotExists = true)
    (hWidths : ∀ field ∈ table.fields, Number.isWritable field.width = true) :
    dialect.createTable table ifNotExists = .error error ↔
      ∃ before field after, table.fields = before ++ field :: after ∧
        (∀ other ∈ before, ∀ error, ¬dialect.FieldFails other.toFieldSpec error) ∧
        dialect.FieldFails field.toFieldSpec error := by
  have hField {field : Field} (hMember : field ∈ table.fields) (error : RenderError) :
      dialect.contribution table.name field.toFieldSpec = .error error ↔
        dialect.FieldFails field.toFieldSpec error :=
    contribution_eq_error_iff error hBuiltin (hWidths field hMember)
  have hPlan : dialect.createTable table ifNotExists = .error error ↔
      dialect.contributions table.name table.fields = .error error := by
    rw [createTable_join dialect table hHead]
    cases dialect.contributions table.name table.fields <;> simp [Except.map]
  rw [hPlan, contributions, mapM_eq_error_iff]
  refine exists_congr fun before => exists_congr fun field => exists_congr fun after =>
    and_congr_right fun hFields => ?_
  have hMember {other : Field} (hOther : other ∈ before) : other ∈ table.fields := by
    simp [hFields, hOther]
  refine and_congr (forall₂_congr fun other hOther => ?_) (hField (by simp [hFields]) error)
  simp only [← hField (hMember hOther)]
  cases dialect.contribution table.name other.toFieldSpec <;> simp

theorem exists_first {α : Type} {p : α → Prop} {items : List α} (hSome : ∃ item ∈ items, p item) :
    ∃ before item after, items = before ++ item :: after ∧ (∀ other ∈ before, ¬p other) ∧
      p item := by
  classical
  have hFound : (items.find? fun item => decide (p item)).isSome = true := by
    simpa [List.find?_isSome] using hSome
  obtain ⟨item, hItem⟩ := Option.isSome_iff_exists.1 hFound
  obtain ⟨hProperty, before, after, hItems, hBefore⟩ := List.find?_eq_some_iff_append.1 hItem
  exact ⟨before, item, after, hItems, by simpa using hBefore, by simpa using hProperty⟩

/-! ## The theorem -/

/-- The default of a field does not fit its type. -/
def RejectsDefault (dialect : Dialect) (field : FieldSpec) (fault : DefaultFault) : Prop :=
  dialect.Rejects field (.malformed fault)

/-- A field with a well-formed default fails. -/
def FailsAt (dialect : Dialect) (field : FieldSpec) : Prop :=
  (∃ fault, dialect.RejectsDefault field fault) ∨ dialect.LacksId field

/-- The default of a field is well-formed, if there is one. -/
def HasFormedDefault (field : FieldSpec) : Prop :=
  ∀ literal, field.default = some literal → literal.isWellFormed = true

theorem exists_fault_of_rejects (hFormed : HasFormedDefault field) {rejection : DefaultError}
    (hRejects : dialect.Rejects field rejection) : ∃ fault, rejection = .malformed fault := by
  obtain ⟨literal, hLiteral, hParsed⟩ := hRejects
  obtain ⟨reason, rfl⟩ := Converter.exists_reason_of_parseDefault (hFormed literal hLiteral) hParsed
  exact ⟨_, rfl⟩

theorem failsAt_iff (hFormed : HasFormedDefault field) :
    dialect.FailsAt field ↔ ∃ error, dialect.FieldFails field error := by
  constructor
  · rintro (⟨fault, hRejects⟩ | hLacks)
    · exact ⟨_, .default hRejects⟩
    · by_cases hRejects : ∃ rejection, dialect.Rejects field rejection
      · obtain ⟨rejection, hRejects⟩ := hRejects
        exact ⟨_, .default hRejects⟩
      · exact ⟨_, .id (by simpa using hRejects) hLacks⟩
  · rintro ⟨error, ⟨hRejects⟩ | ⟨-, hLacks⟩⟩
    · obtain ⟨fault, rfl⟩ := exists_fault_of_rejects hFormed hRejects
      exact .inl ⟨fault, hRejects⟩
    · exact .inr hLacks

/-- The creation of a table fails if its head is asked for in vain.  Otherwise it fails if a
default does not fit or an id cannot be made, with the error of the first such field, whose
default goes before its id. -/
theorem createTable_failure (hBuiltin : dialect ∈ builtin) (table : Table) (ifNotExists : Bool)
    (hDefaults : ∀ field ∈ table.fields, HasFormedDefault field.toFieldSpec)
    (hWidths : ∀ field ∈ table.fields, field.width < Nat.pow 10 Number.maxDigits) :
    (ifNotExists = true ∧ dialect.capabilities.createIfNotExists = false →
      dialect.createTable table ifNotExists =
        .error (.unsupported dialect.name .createIfNotExists)) ∧
      (¬(ifNotExists = true ∧ dialect.capabilities.createIfNotExists = false) →
        ((∃ error, dialect.createTable table ifNotExists = .error error) ↔
          ∃ field ∈ table.fields, dialect.FailsAt field.toFieldSpec) ∧
        ∀ before field after, table.fields = before ++ field :: after →
          (∀ other ∈ before, ¬dialect.FailsAt other.toFieldSpec) →
            (∀ fault, dialect.RejectsDefault field.toFieldSpec fault →
              dialect.createTable table ifNotExists = .error (.malformedDefault fault)) ∧
            ((∀ fault, ¬dialect.RejectsDefault field.toFieldSpec fault) →
              dialect.LacksId field.toFieldSpec →
                dialect.createTable table ifNotExists =
                  .error (.unsupported "sqlite" (.generatedIdOfType field.sqlType)))) := by
  refine ⟨fun hUnknown => by simp [createTable, hUnknown], fun hHead => ?_⟩
  have hKnown : ifNotExists = true → dialect.capabilities.createIfNotExists = true := by
    simpa using hHead
  have hError (error : RenderError) := createTable_eq_error_iff error hBuiltin hKnown
    fun field hField => Number.isWritable_of_natAbs_lt Number.maxDigits (hWidths field hField)
      (Nat.le_refl _)
  have hFails {field : Field} (hField : field ∈ table.fields) :
      dialect.FailsAt field.toFieldSpec ↔ ∃ error, dialect.FieldFails field.toFieldSpec error :=
    failsAt_iff (hDefaults field hField)
  -- The fields before another one in the table are fields of the table.
  have hNone {before after : List Field} {field : Field}
      (hFields : table.fields = before ++ field :: after) :
      (∀ other ∈ before, ¬dialect.FailsAt other.toFieldSpec) ↔
        ∀ other ∈ before, ∀ error, ¬dialect.FieldFails other.toFieldSpec error :=
    forall₂_congr fun other hOther => by
      rw [hFails (by simp [hFields, hOther]), not_exists]
  refine ⟨⟨?_, ?_⟩, fun before field after hFields hBefore => ⟨?_, ?_⟩⟩
  · rintro ⟨error, hTable⟩
    obtain ⟨before, field, after, hFields, -, hField⟩ := (hError _).1 hTable
    have hMember : field ∈ table.fields := by simp [hFields]
    exact ⟨field, hMember, (hFails hMember).2 ⟨error, hField⟩⟩
  · intro hSome
    obtain ⟨before, field, after, hFields, hBefore, hField⟩ := exists_first hSome
    obtain ⟨error, hField⟩ := (hFails (by simp [hFields])).1 hField
    exact ⟨error, (hError _).2 ⟨before, field, after, hFields, (hNone hFields).1 hBefore, hField⟩⟩
  · intro fault hRejects
    exact (hError _).2 ⟨before, field, after, hFields, (hNone hFields).1 hBefore, .default hRejects⟩
  · intro hRead hLacks
    refine (hError _).2 ⟨before, field, after, hFields, (hNone hFields).1 hBefore,
      .id (fun rejection hRejects => ?_) hLacks⟩
    obtain ⟨fault, rfl⟩ := exists_fault_of_rejects (hDefaults field (by simp [hFields])) hRejects
    exact hRead fault hRejects

/-- An id whose type is not made by every dialect, with a default that does not fit. -/
def spoiledId : Field where
  name := "rank"
  sqlType := .short
  width := 0
  columnName := none
  id := false
  generatedId := true
  generatedIdSequence := none
  allowGeneratedIdInsert := false
  nullable := true
  unique := false
  default := some "x"
  name_ne_empty := by decide
  oneIdFlag := by decide
  insertNeedsGeneratedId := by decide

def spoiledTable : Table where
  name := "ranks"
  fields := [spoiledId]
  name_ne_empty := by decide
  fields_ne_nil := by decide
  columns_nodup := by decide
  oneId := by decide

theorem createTable_failure_spoiledTable :
    sqlite.LacksId spoiledId.toFieldSpec ∧
      sqlite.createTable spoiledTable false =
        .error (.malformedDefault ⟨"rank", "x", .notInteger⟩) := by
  have hRejects : sqlite.RejectsDefault spoiledId.toFieldSpec ⟨"rank", "x", .notInteger⟩ :=
    ⟨"x", rfl, rfl⟩
  have hBuiltin : sqlite ∈ builtin := by simp [builtin]
  have hFails := createTable_failure hBuiltin spoiledTable false
    (by simp [spoiledTable, HasFormedDefault, spoiledId])
    (fun field hField => by
      rw [List.mem_singleton.1 hField]
      generalize Number.maxDigits = most
      exact Nat.pow_pos (by decide))
  exact ⟨⟨rfl, by decide⟩,
    ((hFails.2 (by simp)).2 [] spoiledId [] rfl (by simp)).1 _ hRejects⟩

end Dialect

end SqlDialects
