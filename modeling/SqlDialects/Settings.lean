import SqlDialects.Text.CodePoint

/-!
# Settings

What the service is told about the place where it runs.
-/

namespace SqlDialects

structure Settings where
  logLevel : Text.Points := "INFO"
  defaultDialect : Option Text.Points := none
  host : Text.Points := "localhost"
  usualPort : Int := 8000
  assignedPort : Option Int := none
deriving DecidableEq, Repr

def Settings.port (settings : Settings) : Int :=
  settings.assignedPort.getD settings.usualPort

end SqlDialects
