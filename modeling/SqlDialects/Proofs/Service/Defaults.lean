import SqlDialects.Proofs.Ddl.Failures
import SqlDialects.Proofs.Table.Widths
import SqlDialects.Service.Answer

/-!
# Requests with malformed defaults

A default that does not fit is told in a response, unless it is an ill-formed text: the bytes
of such a text are asked for in vain, be it for a column of bytes or for the response that
tells of it (`Service.parseDefault_leaks`).
-/

namespace SqlDialects

open Text (CodePoint Points IllFormed)

/-! ## Ill-formed texts -/

namespace Text.Points

@[simp] theorem isWellFormed_append (first second : Points) :
    (first ++ second).isWellFormed = (first.isWellFormed && second.isWellFormed) :=
  List.all_append

@[simp] theorem isWellFormed_mk_append (first second : List CodePoint) :
    (mk (first ++ second)).isWellFormed =
      ((mk first).isWellFormed && (mk second).isWellFormed) :=
  List.all_append

@[simp] theorem isWellFormed_mk_nil : (mk []).isWellFormed = true := rfl

@[simp] theorem isWellFormed_mk_char (c : Char) (points : List CodePoint) :
    (mk (.char c :: points)).isWellFormed = (mk points).isWellFormed := rfl

end Text.Points

theorem Text.IllFormed.firstHalves?_eq (content : IllFormed) :
    firstHalves? 0 content.toList = some content.encodingFault :=
  (Option.some_get _).symm

namespace Json

theorem isWellFormed_stringForm (content : Points) :
    (Points.mk (stringForm content)).isWellFormed = content.isWellFormed := by
  have hEscape (points : List CodePoint) :
      (Points.mk (points.flatMap escapePoint)).isWellFormed = (Points.mk points).isWellFormed := by
    induction points with
    | nil => rfl
    | cons point points ih =>
        rw [List.flatMap_cons, Points.isWellFormed_mk_append, ih]
        cases point with
        | char c =>
            rw [show escapePoint (.char c) = (Points.ofString (String.ofList (escapeChar c))).toList
              by simp [escapePoint, Points.ofString]]
            exact congrArg (· && _) (Points.isWellFormed_ofString _)
        | half offset => rfl
  simp [stringForm, hEscape]

theorem encodingFault?_detail (content : Points) :
    (encodingFault? (.record [("detail", .ofPoints content)])).isSome =
      !content.isWellFormed := by
  have hForm : (Points.mk (form (.ofPoints content))).isWellFormed = content.isWellFormed := by
    obtain ⟨text, rfl, hValue⟩ | ⟨text, rfl, hValue⟩ := Value.ofPoints_cases content <;>
      rw [hValue, form, isWellFormed_stringForm]
  have hDetail : (Points.mk (form (.record [("detail", .ofPoints content)]))).isWellFormed =
      content.isWellFormed := by
    simp [Value.record, form, entryForms, Value.points?, List.intercalate,
      isWellFormed_stringForm, hForm]
  rw [encodingFault?, Text.firstHalves?_isSome, ← Points.isWellFormed, hDetail]

end Json

/-! ## Errors -/

namespace RenderError

/-- An error that cannot be told in a response: bytes have been asked for in vain, or the
message is ill-formed. -/
def Leaks : RenderError → Prop
  | .malformedDefault fault => fault.text.isWellFormed = false
  | .unencodableDefault _ => True
  | _ => False

/-- An error that tables read from JSON have. -/
def IsOfField : RenderError → Prop
  | .unsupported .. | .malformedDefault _ | .unencodableDefault _ => True
  | .noDefault | .unwritableInteger => False

theorem isWellFormed_message {error : RenderError} (hTold : ¬error.Leaks) :
    error.message.isWellFormed = true := by
  cases error with
  | malformedDefault fault =>
      have hText : fault.text.isWellFormed = true := by simpa [Leaks] using hTold
      simp [message, DefaultFault.message, hText]
  | _ => exact Points.isWellFormed_ofString _

end RenderError

namespace Dialect

variable {dialect : Dialect}

theorem FieldFails.isOfField {field : FieldSpec} {error : RenderError}
    (hFails : dialect.FieldFails field error) : error.IsOfField := by
  cases hFails with
  | default hRejects => next rejection => cases rejection <;> trivial
  | id => trivial

theorem leaks_ofDefault_iff {field : FieldSpec} {literal : Points} {rejection : DefaultError}
    (hParsed : (dialect.converterFor field.sqlType).parseDefault field.name literal =
      .error rejection) :
    (RenderError.ofDefault rejection).Leaks ↔ literal.isWellFormed = false := by
  rcases Converter.parseDefault_cases (dialect.converterFor field.sqlType) field.name literal with
    ⟨⟨value, hValue⟩ | ⟨reason, hReason⟩, -⟩ | ⟨-, content, rfl, hBytes⟩
  · simp [hParsed] at hValue
  · obtain rfl : rejection = _ := by simpa [hParsed] using hReason
    exact Iff.rfl
  · obtain rfl : rejection = _ := by simpa [hParsed] using hBytes
    simp [RenderError.ofDefault, RenderError.Leaks, content.not_wellFormed]

end Dialect

namespace Service

open Dialect

variable {dialect : Dialect}

/-- The first field of a table that fails does so because its default is an ill-formed text. -/
def LeaksDefault (dialect : Dialect) (form : CreateTableForm) : Prop :=
  (form.ifNotExists = true → dialect.capabilities.createIfNotExists = true) ∧
    ∃ before field after, form.table.fields = before ++ field :: after ∧
      (∀ other ∈ before, ∀ error, ¬dialect.FieldFails other.toFieldSpec error) ∧
      ∃ literal rejection, field.default = some literal ∧
        (dialect.converterFor field.sqlType).parseDefault field.name literal = .error rejection ∧
        literal.isWellFormed = false

/-- The form in the body of a request that is admitted, read and found valid. -/
def Request.tableForm? (request : Request) : Option CreateTableForm :=
  match admission request with
  | .admitted body =>
    match readBody request body with
    | .ok value =>
      match checkBody CreateTableForm.check value with
      | .valid form => some form
      | .invalid _ => none
    | .error _ => none
  | _ => none

/-- A request for the statements that create a table in a dialect. -/
structure Asks (settings : Settings) (request : Request) (dialect : Dialect)
    (form : CreateTableForm) : Prop where
  method : request.method = "POST"
  path : request.path = "/ddl/create-table"
  read : request.tableForm? = some form
  chosen : chosenDialect settings form.dialect = .ok dialect

variable {settings : Settings} {request : Request} {form : CreateTableForm}

theorem isJson_of_readBody {body : List UInt8} {value : Value}
    (hRead : readBody request body = .ok (some value)) : value.IsJson := by
  unfold readBody at hRead
  split at hRead
  · cases hRead
  · split at hRead
    · cases hRead
      exact .text _
    · split at hRead
      · cases hRead
      · split at hRead
        · next found hFound =>
          cases hRead
          exact Json.isJson_read (Nat.le_refl _) hFound
        · split at hRead <;> cases hRead

theorem CreateTableForm.ensures_check {input : Value} (hInput : input.IsJson) :
    Checked.Ensures (fun form => form.table.HasWritableWidths) (CreateTableForm.check input) := by
  refine Checked.ensures_object (.seqAny (.seq Table.HasWritableWidths
    (.map fun dialect _ table hTable ifNotExists => hTable) ?_))
  exact Checked.ensures_required hInput fun table hTable =>
    Table.hasWritableWidths_check .entries hTable

theorem read_of_tableForm? (hForm : request.tableForm? = some form) :
    ∃ body value, admission request = .admitted body ∧ readBody request body = .ok value ∧
      checkBody CreateTableForm.check value = .valid form := by
  unfold Request.tableForm? at hForm
  split at hForm
  · next body hAdmitted =>
    split at hForm
    · next value hRead =>
      split at hForm
      · next found hFound =>
        obtain rfl := Option.some.inj hForm
        exact ⟨body, value, hAdmitted, hRead, hFound⟩
      · cases hForm
    · cases hForm
  · cases hForm

theorem Asks.hasWritableWidths (hAsks : Asks settings request dialect form) :
    form.table.HasWritableWidths := by
  obtain ⟨body, value, -, hRead, hForm⟩ := read_of_tableForm? hAsks.read
  cases value with
  | none => cases hForm
  | some value =>
      exact ((CreateTableForm.ensures_check (isJson_of_readBody hRead)).under) form hForm

theorem Asks.answer (hAsks : Asks settings request dialect form) :
    answer settings request =
      (respond ((dialect.createTable form.table form.ifNotExists).mapError .rendering)
        planValue).bind send := by
  obtain ⟨body, value, hAdmitted, hRead, hForm⟩ := read_of_tableForm? hAsks.read
  have hRoute : route request.method request.path = .found .createTable := by
    rw [hAsks.method, hAsks.path]
    decide
  rw [Service.answer, hAdmitted]
  simp only [answerRoute, hRoute, answerEndpoint, withForm, hRead, hForm, createTable,
    hAsks.chosen]
  rfl

theorem send_refusing {status : Nat} {detail : Points} (hFormed : detail.isWellFormed = true) :
    send (.refusing status (.ofPoints detail)) = .ok (.refusing status (.ofPoints detail)) := by
  have hBytes := Json.encodingFault?_detail detail
  rw [hFormed, Bool.not_true, Option.isSome_eq_false_iff, Option.isNone_iff_eq_none] at hBytes
  simp only [send, Response.refusing, Option.bind_some, hBytes]

theorem send_refusing_illFormed (status : Nat) {detail : Points}
    (hIll : detail.isWellFormed = false) :
    ∃ fault, send (.refusing status (.ofPoints detail)) = .error (.unencodable fault) := by
  have hBytes := Json.encodingFault?_detail detail
  rw [hIll, Bool.not_false, Option.isSome_iff_exists] at hBytes
  obtain ⟨fault, hFault⟩ := hBytes
  exact ⟨fault, by simp only [send, Response.refusing, Option.bind_some, hFault]⟩

theorem refusal_rendering {error : RenderError} (hField : error.IsOfField)
    (hTold : ¬error.Leaks) :
    refusal (.rendering error) = .ok (.refusing 422 (.ofPoints error.message)) := by
  cases error with
  | unsupported | malformedDefault => rfl
  | unencodableDefault => exact absurd trivial hTold
  | noDefault | unwritableInteger => cases hField

theorem Asks.answer_of_error (hAsks : Asks settings request dialect form) {error : RenderError}
    (hTable : dialect.createTable form.table form.ifNotExists = .error error)
    (hField : error.IsOfField) :
    (¬error.Leaks →
        Service.answer settings request = .ok (.refusing 422 (.ofPoints error.message))) ∧
      (error.Leaks → ∃ fault,
        Service.answer settings request = .error (.rendering (.unencodableDefault fault)) ∨
          Service.answer settings request = .error (.unencodable fault)) := by
  have hAnswer : Service.answer settings request = (refusal (.rendering error)).bind send := by
    rw [hAsks.answer, hTable]
    rfl
  constructor
  · intro hTold
    rw [hAnswer, refusal_rendering hField hTold]
    exact send_refusing (RenderError.isWellFormed_message hTold)
  · intro hLeaks
    cases error with
    | malformedDefault fault =>
        have hIll : fault.message.isWellFormed = false := by
          have hText : fault.text.isWellFormed = false := hLeaks
          simp [DefaultFault.message, hText]
        obtain ⟨breakdown, hBreakdown⟩ := send_refusing_illFormed 422 hIll
        exact ⟨breakdown, .inr (hAnswer.trans hBreakdown)⟩
    | unencodableDefault fault => exact ⟨fault, .inl hAnswer⟩
    | unsupported | noDefault | unwritableInteger => cases hLeaks

theorem exists_error_of_rejects (hBuiltin : dialect ∈ builtin)
    (hWidths : form.table.HasWritableWidths)
    (hRejects : ∃ field ∈ form.table.fields, ∃ rejection,
      dialect.Rejects field.toFieldSpec rejection) :
    ∃ error, dialect.createTable form.table form.ifNotExists = .error error ∧ error.IsOfField ∧
      (error.Leaks ↔ LeaksDefault dialect form) := by
  -- A head that is not known is told before any field is looked at.
  by_cases hHead : form.ifNotExists = true → dialect.capabilities.createIfNotExists = true
  · have hError (error : RenderError) := createTable_eq_error_iff error hBuiltin hHead hWidths
    have hFails : ∃ field ∈ form.table.fields, ∃ error,
        dialect.FieldFails field.toFieldSpec error := by
      obtain ⟨field, hField, rejection, hRejects⟩ := hRejects
      exact ⟨field, hField, _, .default hRejects⟩
    obtain ⟨before, field, after, hFields, hBefore, error, hField⟩ := exists_first hFails
    have hNone : ∀ other ∈ before, ∀ error, ¬dialect.FieldFails other.toFieldSpec error := by
      simpa using hBefore
    have hTable := (hError error).2 ⟨before, field, after, hFields, hNone, hField⟩
    refine ⟨error, hTable, hField.isOfField, fun hLeaks => ?_, ?_⟩
    · cases hField with
      | default hRejected =>
          obtain ⟨literal, hLiteral, hParsed⟩ := hRejected
          exact ⟨hHead, before, field, after, hFields, hNone, literal, _, hLiteral, hParsed,
            (leaks_ofDefault_iff hParsed).1 hLeaks⟩
      | id => cases hLeaks
    · rintro ⟨-, before, field, after, hFields, hNone, literal, rejection, hLiteral, hParsed, hIll⟩
      have hOther := (hError _).2 ⟨before, field, after, hFields, hNone,
        .default ⟨literal, hLiteral, hParsed⟩⟩
      obtain rfl : error = .ofDefault rejection := by simpa [hTable] using hOther
      exact (leaks_ofDefault_iff hParsed).2 hIll
  · refine ⟨.unsupported dialect.name .createIfNotExists, ?_, trivial, by simp [RenderError.Leaks,
      LeaksDefault, hHead]⟩
    have hUnknown : form.ifNotExists = true ∧ ¬dialect.capabilities.createIfNotExists = true := by
      simpa using hHead
    rw [Dialect.createTable, if_pos hUnknown]

/-! ## The theorem -/

/-- Reading a default gives a value, which is written then, or a fault that names the field and
the text, unless it is an ill-formed text for a column of bytes.  So a request with a default
that is not read is answered by what is wrong, unless the first thing wrong with its table is
the default of a field and this is ill-formed.  Then there is no response. -/
theorem parseDefault_leaks (hBuiltin : dialect ∈ builtin) :
    (∀ (field : FieldSpec) (literal : Points),
      let outcome :=
        (dialect.converterFor field.sqlType).parseDefault field.name literal
      (((∃ value, outcome = .ok value) ∨
          ∃ reason, outcome = .error (.malformed ⟨field.name, literal, reason⟩)) ↔
        ¬(field.sqlType = .byteArray ∧ literal.isWellFormed = false)) ∧
      (field.sqlType = .byteArray ∧ literal.isWellFormed = false →
        ∃ fault, Text.firstHalves? 0 literal.toList = some fault ∧
          outcome = .error (.unencodable fault)) ∧
      ∀ value, outcome = .ok value → field.default = some literal →
        ∃ clause, dialect.defaultClause field = .ok clause) ∧
      ∀ settings request form, Asks settings request dialect form →
        (∃ field ∈ form.table.fields, ∃ rejection,
          dialect.Rejects field.toFieldSpec rejection) →
        ((∃ error, dialect.createTable form.table form.ifNotExists = .error error ∧
            answer settings request = .ok (.refusing 422 (.ofPoints error.message))) ↔
          ¬LeaksDefault dialect form) ∧
        (LeaksDefault dialect form → ∃ fault,
          answer settings request = .error (.rendering (.unencodableDefault fault)) ∨
            answer settings request = .error (.unencodable fault)) := by
  refine ⟨fun field literal => ?_, fun settings request form hAsks hRejects => ?_⟩
  · dsimp only
    rw [← converterFor_eq_bytes_iff hBuiltin]
    refine ⟨?_, ?_, fun value hParsed hDefault => defaultClause_isOk hDefault hParsed⟩ <;>
      rcases Converter.parseDefault_cases (dialect.converterFor field.sqlType) field.name literal
        with ⟨hReports, hOther⟩ | ⟨hBytes, content, rfl, hParsed⟩
    · exact iff_of_true hReports hOther
    · exact iff_of_false (by simp [hParsed]) (not_not.2 ⟨hBytes, content.not_wellFormed⟩)
    · exact fun hIll => absurd hIll hOther
    · exact fun _ => ⟨content.encodingFault, content.firstHalves?_eq, hParsed⟩
  · obtain ⟨error, hTable, hField, hLeaks⟩ :=
      exists_error_of_rejects hBuiltin hAsks.hasWritableWidths hRejects
    obtain ⟨hTold, hLeft⟩ := hAsks.answer_of_error hTable hField
    rw [← hLeaks]
    refine ⟨⟨?_, fun hNot => ⟨error, hTable, hTold hNot⟩⟩, hLeft⟩
    rintro ⟨other, -, hAnswered⟩ hYes
    obtain ⟨fault, hFault | hFault⟩ := hLeft hYes <;> rw [hFault] at hAnswered <;> cases hAnswered

/-- A request for a table with one field, which has a type and a default. -/
def defaultRequest (sqlType default : String) : Request where
  method := "POST"
  path := "/ddl/create-table"
  query := ""
  host := "test"
  headers := [("content-type", "application/json")]
  chunks := [Text.encodeUtf8 (
    "\x7b\"dialect\": \"mysql\", \"table\": \x7b\"name\": \"words\", \"fields\": [" ++
      "\x7b\"name\": \"word\", \"type\": \"" ++ sqlType ++
      "\", \"default\": \"" ++ default ++ "\"\x7d]\x7d\x7d")]

/-- A number whose default is a word. -/
def wordField : Field where
  name := "word"
  sqlType := .int
  width := 0
  columnName := none
  id := false
  generatedId := false
  generatedIdSequence := none
  allowGeneratedIdInsert := false
  nullable := true
  unique := false
  default := some "x"
  name_ne_empty := by decide
  oneIdFlag := by decide
  insertNeedsGeneratedId := by decide

def wordForm : CreateTableForm where
  dialect := some "mysql"
  table :=
    { name := "words"
      fields := [wordField]
      name_ne_empty := by decide
      fields_ne_nil := by decide
      columns_nodup := by decide
      oneId := by decide }
  ifNotExists := false

theorem asks_wordForm : Asks {} (defaultRequest "int" "x") mysql wordForm where
  method := rfl
  path := rfl
  read := by
    -- Forms are compared by their parts, whose equality is decided.
    have hRead : ((defaultRequest "int" "x").tableForm?.map fun form =>
        (form.dialect, form.table, form.ifNotExists)) =
          some (wordForm.dialect, wordForm.table, wordForm.ifNotExists) := by
      decide +kernel
    obtain ⟨⟨dialect, table, ifNotExists⟩, hForm, hParts⟩ := Option.map_eq_some_iff.1 hRead
    cases hParts
    exact hForm
  chosen := rfl

theorem parseDefault_leaks_wordForm :
    ∃ error, mysql.createTable wordForm.table wordForm.ifNotExists = .error error ∧
      answer {} (defaultRequest "int" "x") = .ok (.refusing 422 (.ofPoints error.message)) := by
  have hRejects : ∃ field ∈ wordForm.table.fields, ∃ rejection,
      mysql.Rejects field.toFieldSpec rejection :=
    ⟨wordField, by simp [wordForm], _, "x", rfl, rfl⟩
  have hBuiltin : mysql ∈ builtin := by simp [builtin]
  refine ((parseDefault_leaks hBuiltin).2 {} _ _ asks_wordForm hRejects).1.2 ?_
  rintro ⟨-, before, field, after, hFields, -, literal, rejection, hLiteral, -, hIll⟩
  have hField : field ∈ [wordField] := by
    rw [show [wordField] = _ from hFields]
    simp
  rw [List.mem_singleton.1 hField] at hLiteral
  cases hLiteral
  cases hIll

/-- Half a surrogate pair in place of bytes is neither read nor told of. -/
theorem parseDefault_half :
    ¬((∃ value, (mysql.converterFor .byteArray).parseDefault "word" ⟨[.half 0]⟩ = .ok value) ∨
        ∃ reason, (mysql.converterFor .byteArray).parseDefault "word" ⟨[.half 0]⟩ =
          .error (.malformed ⟨"word", ⟨[.half 0]⟩, reason⟩)) ∧
      answer {} (defaultRequest "byte_array" "\\ud800") =
        .error (.rendering (.unencodableDefault ⟨0, 1, 0⟩)) := by
  constructor
  · rintro (⟨value, hValue⟩ | ⟨reason, hReason⟩)
    · cases hValue
    · cases hReason
  · have hLeft : (match answer {} (defaultRequest "byte_array" "\\ud800") with
        | .error breakdown => some breakdown
        | .ok _ => none) = some (.rendering (.unencodableDefault ⟨0, 1, 0⟩)) := by
      decide +kernel
    split at hLeft
    · next hAnswer => rw [hAnswer, Option.some.inj hLeft]
    · cases hLeft

end Service

end SqlDialects
