import SqlDialects.Dialect

/-!
# The built-in dialects
-/

namespace SqlDialects.Dialect

def mysql : Dialect where
  name := "mysql"
  kind := "MySqlDialect"
  databaseName := "MySQL"
  driverName := "pymysql"
  capabilities := { offsetRequiresLimit := true }
  quote := '\x60'
  typeNames := { date := "DATETIME" }
  idGeneration := .autoIncrement
  tableSuffix := " ENGINE=InnoDB"

def postgres : Dialect where
  name := "postgres"
  kind := "PostgresDialect"
  databaseName := "PostgreSQL"
  driverName := "psycopg"
  capabilities := { generatedIdSequence := true }
  typeNames := { byte := "SMALLINT", byteArray := "BYTEA" }
  idGeneration := .sequence
  matchesScheme := fun scheme => scheme == "postgres" || scheme == "postgresql"

def sqlite : Dialect where
  name := "sqlite"
  kind := "SqliteDialect"
  databaseName := "SQLite"
  driverName := "sqlite3"
  capabilities := { offsetRequiresLimit := true }
  quote := '\x60'
  typeNames := { generatedLong := "INTEGER" }
  idGeneration := .inlineAutoincrement
  overrides := fun sqlType => if sqlType = .boolean then some .booleanNumber else none

/-- `IDENTITY` ids, `TOP` in place of a limit, no offsets, and bytes in columns
of type `SMALLINT`, since `TINYINT` has no sign there. -/
def sqlserver : Dialect where
  name := "sqlserver"
  kind := "SqlServerDialect"
  databaseName := "SQL Server"
  driverName := "pyodbc"
  capabilities := {
    supportsOffset := false
    limitAfterSelect := true
    allowGeneratedIdInsert := false
    createIfNotExists := false }
  typeNames := { boolean := "BIT", date := "DATETIME", byte := "SMALLINT", byteArray := "IMAGE" }
  idGeneration := .identity
  overrides := fun sqlType =>
    match sqlType with
    | .boolean => some .booleanNumber
    | .byte => some .byteInShort
    | _ => none
  limitKeyword := "TOP"

def builtin : List Dialect :=
  [mysql, postgres, sqlite, sqlserver]

def custom (name databaseName : String) (capabilities : Capabilities)
    (schemes : Option (List String)) : Dialect where
  name := name
  kind := "CustomDialect"
  databaseName := databaseName
  driverName := "none"
  capabilities := capabilities
  matchesScheme := fun scheme =>
    match schemes with
    | some schemes => schemes.any fun name => scheme == name
    | none => scheme == name

end SqlDialects.Dialect
