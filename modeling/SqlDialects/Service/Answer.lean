import SqlDialects.Json.Writer
import SqlDialects.Service.Endpoint
import SqlDialects.Service.Route
import SqlDialects.Startup

/-!
# Answers

The way from a request to its response: the limit on the body, the route, the
form, the endpoint, and the JSON that is sent back.
-/

namespace SqlDialects.Service

inductive Breakdown where
  | bodyLength (fault : Number.IntegerFault) (text : String)
  | notFinite
  | rendering (error : RenderError)
  | document (fault : Yaml.Fault)
  | unencodable (fault : Text.EncodingFault)
deriving DecidableEq, Repr

def Breakdown.message : Breakdown → Text.Points
  | .bodyLength fault text => fault.message .ten (Text.quoted text)
  | .notFinite => "Out of range float values are not JSON compliant"
  | .rendering error => error.message
  | .document fault => fault.message
  | .unencodable fault => fault.message

abbrev Answer := Except Breakdown Response

/-! ## Values -/

def capabilitiesValue (capabilities : Capabilities) : Value :=
  .record [
    ("supports_limit", .boolean capabilities.supportsLimit),
    ("supports_offset", .boolean capabilities.supportsOffset),
    ("limit_after_select", .boolean capabilities.limitAfterSelect),
    ("offset_requires_limit", .boolean capabilities.offsetRequiresLimit),
    ("allow_generated_id_insert", .boolean capabilities.allowGeneratedIdInsert),
    ("generated_id_sequence", .boolean capabilities.generatedIdSequence),
    ("create_if_not_exists", .boolean capabilities.createIfNotExists)]

def dialectValue (dialect : Dialect) : Value :=
  .record [
    ("name", .text dialect.name),
    ("database_name", .text dialect.databaseName),
    ("driver", .text dialect.driverName),
    ("capabilities", capabilitiesValue dialect.capabilities)]

def planValue (plan : CreateTablePlan) : Value :=
  .record [
    ("table_name", .text plan.tableName),
    ("statements_before", .texts plan.statementsBefore),
    ("create_table", .ofPoints plan.createTable),
    ("statements_after", .texts plan.statementsAfter),
    ("queries_after", .texts plan.queriesAfter),
    ("statements", .texts plan.statements)]

def schemaErrorValue (error : SchemaError) : Value :=
  .record [
    ("code", .text error.code),
    ("message", .ofPoints error.message),
    ("path", .orNull .ofPoints error.path),
    ("line", .orNull (.integer ·.line) error.span),
    ("column", .orNull (.integer ·.column) error.span)]

def stepValue : Step → Value
  | .key name => .ofPoints name
  | .index position => .integer position

def violationValue (violation : Violation) : Value :=
  let context := violation.rule.context
  .record ([
    ("type", .text violation.rule.code),
    ("loc", .list (violation.location.map stepValue)),
    ("msg", .ofPoints violation.rule.message),
    ("input", violation.input)]
    ++ if context.isEmpty then [] else [("ctx", .record context)])

/-! ## Responses -/

def success (body : Value) : Response where
  status := 200
  body := some body

def refusal : Refusal → Answer
  | .noDialect => .ok (.refusing 422 (.text "No dialect given and no default configured"))
  | .unknownDialect error => .ok (.refusing 404 (.ofPoints error.message))
  | .rendering error =>
    match error with
    | .unsupported .. | .malformedDefault _ => .ok (.refusing 422 (.ofPoints error.message))
    | .unencodableDefault _ | .noDefault | .unwritableInteger => .error (.rendering error)
  | .schema fault =>
    match fault with
    | .refused fault => .ok (.refusing 422 (.text fault.message))
    | .valueless fault => .error (.document fault)
    | .malformed | .missingTables | .invalid _ =>
      .ok (.refusing 422 (.record [("errors", .list (fault.errors.map schemaErrorValue))]))

def rejection (violations : List Violation) : Answer :=
  let detail := Value.list (violations.map violationValue)
  if Json.isStrict detail then .ok (.refusing 422 detail) else .error .notFinite

def respond {α : Type} (result : Except Refusal α) (shown : α → Value) : Answer :=
  match result with
  | .ok value => .ok (success (shown value))
  | .error reason => refusal reason

def withForm {α : Type} (check : Value → Checked α) (request : Request) (body : List UInt8)
    (answer : α → Answer) : Answer :=
  match readBody request body with
  | .error .unreadable => .ok (.refusing 400 (.text "There was an error parsing the body"))
  | .error (.malformed fault) => rejection [malformedBody fault]
  | .ok body =>
    match checkBody check body with
    | .valid form => answer form
    | .invalid violations => rejection violations

def answerEndpoint (settings : Settings) (request : Request) (body : List UInt8) :
    Endpoint → Answer
  | .health =>
    .ok (success (.record [("status", .text "ok"), ("version", .text serviceVersion)]))
  | .dialects =>
    .ok (success (.record [("dialects", .list (allDialects.map dialectValue))]))
  | .dialect name => respond (describeDialect name) dialectValue
  | .resolve =>
    withForm ResolveForm.check request body fun form => respond (resolveUrl form) dialectValue
  | .createTable =>
    withForm CreateTableForm.check request body fun form =>
      respond (createTable settings form) planValue
  | .schema =>
    withForm SchemaForm.check request body fun form =>
      respond (createSchema settings form) fun (dialect, plans) =>
        .record [("dialect", .text dialect.name), ("tables", .list (plans.map planValue))]
  | .select =>
    withForm SelectForm.check request body fun form =>
      respond (select settings form) fun (dialect, statement) =>
        .record [("sql", .ofPoints statement), ("dialect", .text dialect.name)]

def answerRoute (settings : Settings) (request : Request) (body : List UInt8) : Answer :=
  match route request.method request.path with
  | .found endpoint => answerEndpoint settings request body endpoint
  | .wrongMethod allowed =>
    .ok ((Response.refusing 405 (.text "Method Not Allowed")).withHeader "allow" allowed)
  | .redirect path =>
    .ok ((Response.mk 307 [] none).withHeader "location" (request.urlOf path))
  | .unknown => .ok (.refusing 404 (.text "Not Found"))

def durationText (tenths : Nat) : String :=
  Number.natText (tenths / 10) ++ "." ++ Number.natText (tenths % 10)

/-- The response that can be sent: one that tells of an ill-formed text has no bytes. -/
def send (response : Response) : Answer :=
  match response.body.bind Json.encodingFault? with
  | some fault => .error (.unencodable fault)
  | none => .ok response

def answer (settings : Settings) (request : Request) : Answer :=
  match admission request with
  | .admitted body => (answerRoute settings request body).bind send
  | .tooLarge limit => .ok (.refusing 413 (.text (bodyLimitMessage limit)))
  | .unreadableLength fault text => .error (.bodyLength fault text)

def withDuration (tenths : Nat) (answer : Answer) : Answer :=
  answer.map (·.withHeader "x-request-duration-ms" (durationText tenths))

end SqlDialects.Service
