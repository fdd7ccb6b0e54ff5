/-!
# Semantic column types

The types of logical columns, independent of any database.
-/

namespace SqlDialects

inductive SqlType where
  | string
  | longString
  | char
  | boolean
  | date
  | byte
  | byteArray
  | short
  | int
  | long
  | float
  | double
  | serializedObject
  | decimal
  | uuid
deriving DecidableEq, Repr, Inhabited

namespace SqlType

def all : List SqlType :=
  [string, longString, char, boolean, date, byte, byteArray, short, int, long, float, double,
    serializedObject, decimal, uuid]

def name : SqlType → String
  | string => "string"
  | longString => "long_string"
  | char => "char"
  | boolean => "boolean"
  | date => "date"
  | byte => "byte"
  | byteArray => "byte_array"
  | short => "short"
  | int => "int"
  | long => "long"
  | float => "float"
  | double => "double"
  | serializedObject => "serialized_object"
  | decimal => "decimal"
  | uuid => "uuid"

def ofName? (name : String) : Option SqlType :=
  all.find? fun sqlType => sqlType.name == name

theorem ofName?_name (sqlType : SqlType) : ofName? sqlType.name = some sqlType := by
  cases sqlType <;> decide

end SqlType

end SqlDialects
