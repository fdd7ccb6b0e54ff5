import SqlDialects.Service.Answer

/-!
# The service as a program

Starts the service with the environment and the file `.env` of the working
directory.  Requests arrive on standard input, one JSON object a line with a
method, a target, headers and a body; each is answered by one line.
-/

namespace SqlDialects

def environmentOfBytes (bytes : ByteArray) : List (String × String) :=
  ((String.fromUTF8? bytes).getD "").splitOn "\x00" |>.filterMap fun entry =>
    match entry.toList.span (· != '=') with
    | (name, _ :: value) => some (String.ofList name, String.ofList value)
    | (_, []) => none

def readEnvironment : IO (List (String × String)) := do
  try
    return environmentOfBytes (← IO.FS.readBinFile "/proc/self/environ")
  catch _ => return []

def readEnvironmentFile : IO (Option String) := do
  try
    return some (← IO.FS.readFile ".env")
  catch _ => return none

def textEntry (key fallback : String) (value : Value) : String :=
  match value.get? key with
  | some (.text content) => content
  | _ => fallback

def requestOfValue (value : Value) : Service.Request :=
  let (path, query) := Service.splitTarget (textEntry "target" "/" value)
  let headers :=
    match value.get? "headers" with
    | some (.mapping entries) =>
      entries.filterMap fun entry =>
        match entry with
        | (.text name, .text content) => some (name, content)
        | _ => none
    | _ => []
  { method := textEntry "method" "GET" value
    path := path
    query := query
    host := textEntry "host" "localhost" value
    headers := headers
    chunks := [Text.encodeUtf8 (textEntry "body" "" value)] }

def answerValue : Service.Answer → Value
  | .ok response =>
    .record [
      ("status", .integer response.status),
      ("headers", .record (response.headers.map fun header => (header.1, .text header.2))),
      ("body", response.body.getD .null)]
  | .error breakdown => .record [("error", .ofPoints breakdown.message)]

def answerLine (settings : Settings) (line : String) : Service.Answer ⊕ Json.Fault :=
  match Json.read Service.bodyLimits line with
  | .ok value => .inl (Service.answer settings (requestOfValue value))
  | .error fault => .inr fault

partial def serve (settings : Settings) (input output : IO.FS.Stream) : IO Unit := do
  let line ← input.getLine
  if line.isEmpty then return
  let start ← IO.monoNanosNow
  let reply ←
    match answerLine settings line with
    | .inl answer => do
      let stop ← IO.monoNanosNow
      pure (answerValue (Service.withDuration ((stop - start) / 100000) answer))
    | .inr fault => pure (.record [("error", .text fault.reason.message)])
  output.putStr (Json.write reply ++ "\n")
  output.flush
  serve settings input output

def run (sources : SettingSources) : IO UInt32 := do
  let errors ← IO.getStderr
  for line in Dotenv.malformedLines sources.fileText do
    errors.putStr ("Line " ++ Number.natText line ++ " of .env cannot be read\n")
  match Startup.start sources with
  | .error fault =>
    errors.putStr (fault.message.escaped ++ "\n")
    return 1
  | .ok startup =>
    for record in startup.log do
      errors.putStr (record.line.escaped ++ "\n")
    serve startup.settings (← IO.getStdin) (← IO.getStdout)
    return 0

end SqlDialects

open SqlDialects in
def main : IO UInt32 := do
  run {
    environment := ← readEnvironment
    file := ← readEnvironmentFile }
