import SqlDialects.Service.BodyLimit

/-!
# Routes

Which endpoint a request is meant for.  A path without a route is redirected if
the same path with or without a slash at its end has one.
-/

namespace SqlDialects.Service

inductive Endpoint where
  | health
  | dialects
  | dialect (name : String)
  | resolve
  | createTable
  | schema
  | select
deriving DecidableEq, Repr

structure Route where
  method : String
  endpoint? : String → Option Endpoint

/-- The endpoint of a single path; a newline at its end does not count. -/
def only (path : String) (endpoint : Endpoint) (wanted : String) : Option Endpoint :=
  if wanted = path ∨ wanted = path.push '\n' then some endpoint else none

def below (stem : List Char) (endpoint : String → Endpoint) (wanted : String) : Option Endpoint :=
  let chars := wanted.toList
  let step := chars.drop stem.length
  if stem.isPrefixOf chars ∧ step ≠ [] ∧ ¬step.contains '/' then
    some (endpoint (String.ofList step))
  else none

def routes : List Route :=
  [⟨"GET", only "/dialects" .dialects⟩,
    ⟨"POST", only "/dialects/resolve" .resolve⟩,
    ⟨"GET", below "/dialects/".toList .dialect⟩,
    ⟨"POST", only "/ddl/create-table" .createTable⟩,
    ⟨"POST", only schemaPath .schema⟩,
    ⟨"POST", only "/query/select" .select⟩,
    ⟨"GET", only "/health" .health⟩]

inductive Routing where
  | found (endpoint : Endpoint)
  | wrongMethod (allowed : String)
  | redirect (path : String)
  | unknown
deriving DecidableEq, Repr

def slashToggled (path : String) : String :=
  if path.endsWith "/" then
    String.ofList (Text.trimEndBy (· == '/') path.toList)
  else path.push '/'

def hasRoute (path : String) : Bool :=
  routes.any fun route => (route.endpoint? path).isSome

def endpoints (path : String) : List (String × Endpoint) :=
  routes.filterMap fun route => (route.endpoint? path).map (route.method, ·)

def route (method path : String) : Routing :=
  match (endpoints path).find? fun entry => entry.1 == method, endpoints path with
  | some (_, endpoint), _ => .found endpoint
  | none, (allowed, _) :: _ => .wrongMethod allowed
  | none, [] =>
    if path ≠ "/" ∧ hasRoute (slashToggled path) then .redirect (slashToggled path) else .unknown

end SqlDialects.Service
