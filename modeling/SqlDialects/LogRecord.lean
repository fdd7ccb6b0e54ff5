import SqlDialects.Text.CodePoint

/-!
# Log records
-/

namespace SqlDialects

inductive LogLevel where
  | debug
  | info
deriving DecidableEq, Repr

def LogLevel.name : LogLevel → String
  | .debug => "DEBUG"
  | .info => "INFO"

def LogLevel.weight : LogLevel → Nat
  | .debug => 10
  | .info => 20

structure LogRecord where
  level : LogLevel
  logger : String
  message : Text.Points
deriving DecidableEq, Repr

def LogRecord.line (record : LogRecord) : Text.Points :=
  .ofString (record.level.name ++ ":" ++ record.logger ++ ":") ++ record.message

end SqlDialects
