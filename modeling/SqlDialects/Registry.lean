import SqlDialects.Dialect.Vendors
import SqlDialects.LogRecord
import SqlDialects.Text.Quoted

/-!
# The registry of dialects

Dialects by name, in the order in which their names were first registered.  A
dialect is also found by the scheme of a connection URL.
-/

namespace SqlDialects

structure UnsupportedDialect where
  name : Text.Points
  available : List String
deriving DecidableEq, Repr

def UnsupportedDialect.message (error : UnsupportedDialect) : Text.Points :=
  "Unsupported dialect '" ++ error.name
    ++ .ofString ("'. Available: " ++ ", ".intercalate error.available)

/-- The part of a URL before its first colon and, in that, before its first plus sign. -/
def urlScheme (url : Text.Points) : Text.Points :=
  ⟨(url.toList.takeWhile (· != .char ':')).takeWhile (· != .char '+')⟩

structure Registry where
  dialects : List Dialect

namespace Registry

def empty : Registry := ⟨[]⟩

/-- Puts a dialect in the place of the one of its name or else at the end. -/
def place (dialect : Dialect) : List Dialect → List Dialect
  | [] => [dialect]
  | other :: rest =>
    if other.name = dialect.name then dialect :: rest else other :: place dialect rest

def register (registry : Registry) (dialect : Dialect) : Registry :=
  ⟨place dialect registry.dialects⟩

def builtin : Registry :=
  Dialect.builtin.foldl register empty

def available (registry : Registry) : List String :=
  (registry.dialects.map Dialect.name).mergeSort fun first second => !decide (second < first)

def get (registry : Registry) (name : Text.Points) : Except UnsupportedDialect Dialect :=
  match registry.dialects.find? fun dialect => Text.Points.ofString dialect.name == name with
  | some dialect => .ok dialect
  | none => .error ⟨name, registry.available⟩

def resolve (registry : Registry) (scheme : Text.Points) : Except UnsupportedDialect Dialect :=
  match registry.dialects.find? fun dialect => dialect.matchesScheme scheme with
  | some dialect => .ok dialect
  | none => .error ⟨scheme, registry.available⟩

def forUrl (registry : Registry) (url : Text.Points) : Except UnsupportedDialect Dialect :=
  registry.resolve (urlScheme url)

/-! ## Log records -/

def registeredRecord (dialect : Dialect) : LogRecord where
  level := .debug
  logger := "dialectkit.dialect"
  message := .ofString ("Registered dialect " ++ dialect.name ++ " (" ++ dialect.kind ++ ")")

def resolvedRecord (scheme : Text.Points) (dialect : Dialect) : LogRecord where
  level := .debug
  logger := "dialectkit.dialect"
  message :=
    .ofString ("Resolved URL scheme " ++ Text.quotedPoints scheme ++ " to dialect " ++ dialect.name)

end Registry

end SqlDialects
