import SqlDialects.LogRecord
import SqlDialects.Settings.Sources
import SqlDialects.Text.Quoted

/-!
# Starting the service

What is logged when the service starts, and where it listens.
-/

namespace SqlDialects

def serviceVersion : String := "0.3.0"

inductive StartupFault where
  | settings (violations : List Violation)
  | unknownLevel (name : Text.Points)

def StartupFault.message : StartupFault → Text.Points
  | .settings violations =>
    Text.Points.intercalate "; " (violations.map fun violation => violation.rule.message)
  | .unknownLevel name => .ofString ("Unknown level: " ++ Text.quotedPoints name)

structure Listener where
  host : Text.Points
  port : Int
  logLevel : Text.Points
deriving DecidableEq, Repr

structure Startup where
  settings : Settings
  listener : Listener
  log : List LogRecord
deriving DecidableEq, Repr

namespace Startup

def levels : List (String × Nat) :=
  [("CRITICAL", 50), ("FATAL", 50), ("ERROR", 40), ("WARN", 30), ("WARNING", 30), ("INFO", 20),
    ("DEBUG", 10), ("NOTSET", 0)]

def level? (name : Text.Points) : Option Nat :=
  (levels.find? fun entry => Text.Points.ofString entry.1 == name).map Prod.snd

def record (settings : Settings) : LogRecord where
  level := .info
  logger := "dialectkit.api"
  message :=
    .ofString ("dialectkit API Server v" ++ serviceVersion ++ " starting (host=") ++ settings.host
      ++ .ofString (", port=" ++ Number.integerText settings.port ++ ", default dialect=")
      ++ settings.defaultDialect.getD "None" ++ ")"

def ofSettings (settings : Settings) : Except StartupFault Startup :=
  let name := settings.logLevel.toUpper
  match level? name with
  | none => .error (.unknownLevel name)
  | some threshold =>
    let record := record settings
    .ok {
      settings := settings
      listener := ⟨settings.host, settings.port, settings.logLevel.toLower⟩
      log := if threshold ≤ record.level.weight then [record] else [] }

def start (sources : SettingSources) : Except StartupFault Startup :=
  match Settings.load sources with
  | .valid settings => ofSettings settings
  | .invalid violations => .error (.settings violations)

end Startup

end SqlDialects
