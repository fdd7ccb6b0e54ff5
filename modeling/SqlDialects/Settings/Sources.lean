import SqlDialects.Settings
import SqlDialects.Settings.Dotenv
import SqlDialects.Text.LineEnd
import SqlDialects.Validation.Scalar

/-!
# Sources of settings

A setting is taken from the first of these sources that has it: what the
application gives, the environment, the environment file.  Names in the
environment and in the file may be written in any letter case.
-/

namespace SqlDialects

structure SettingSources where
  given : List (String × Value) := []
  environment : List (String × String) := []
  file : Option String := none

namespace SettingSources

def fileText (sources : SettingSources) : List Char :=
  (Text.unifyLineEnds (sources.file.getD "")).toList

def fromEnvironment? (sources : SettingSources) (name : String) : Option String :=
  (sources.environment.reverse.find? fun entry => Text.toLower entry.1 == name).map Prod.snd

def fromFile? (sources : SettingSources) (name : String) : Option String :=
  let environment := sources.environment.reverse.map fun (name, value) => (name, some value)
  ((Dotenv.bindings environment sources.fileText).find? fun entry =>
    Text.toLower entry.1 == name).bind Prod.snd

def value? (sources : SettingSources) (name : String) : Option Value :=
  ((sources.given.find? fun entry => entry.1 == name).map Prod.snd).orElse fun _ =>
    ((sources.fromEnvironment? name).orElse fun _ => sources.fromFile? name).map Value.text

def names : List String :=
  ["log_level", "default_dialect", "api_server_host", "api_server_port", "port"]

def found (sources : SettingSources) : Value :=
  .record (names.filterMap fun name => (sources.value? name).map (name, ·))

end SettingSources

namespace Settings

open Checked

def check (input : Value) : Checked Settings :=
  let usual : Settings := {}
  Settings.mk
    <$> optional ["log_level"] usual.logLevel text input
    <*> optional ["default_dialect"] usual.defaultDialect (orNull text) input
    <*> optional ["api_server_host"] usual.host text input
    <*> optional ["api_server_port"] usual.usualPort integer input
    <*> optional ["port"] usual.assignedPort (orNull integer) input

def load (sources : SettingSources) : Checked Settings :=
  check sources.found

end Settings

end SqlDialects
