import SqlDialects.Value.Conversion

/-!
# Result rows

A row of a query result with typed reads of its columns, which are counted from
one.  Null is read as null by every reader.
-/

namespace SqlDialects

structure Row where
  columns : List Value

inductive Reader where
  | string
  | boolean
  | byte
  | short
  | int
  | long
  | float
  | double
  | decimal
  | timestamp
  | bytes
deriving DecidableEq, Repr

namespace Row

def get (row : Row) (column : Int) : Except ConversionError Value :=
  if column < 1 then .error (.columnOutOfRange column row.columns.length)
  else match row.columns[(column - 1).toNat]? with
    | some value => .ok value
    | none => .error (.columnOutOfRange column row.columns.length)

def set (row : Row) (column : Nat) (value : Value) : Row :=
  ⟨row.columns.set (column - 1) value⟩

def binary (column : Int) (value : Value) : Except ConversionError Value :=
  match value with
  | .bytes content | .buffer content | .window content => .ok (.bytes content)
  | .archived content => .ok (.archived content)
  | _ => .error (.notBinary column value.typeName)

def convert (reader : Reader) (column : Int) (value : Value) : Except ConversionError Value :=
  match reader with
  | .string => value.asText.map Value.ofPoints
  | .boolean => .ok (.boolean value.isTrue)
  | .byte | .short | .int | .long => value.asInteger.map Value.integer
  | .float | .double => value.asReal.map Value.real
  | .decimal => value.asDecimal.map Value.decimal
  | .timestamp => value.asMoment.map Value.moment
  | .bytes => binary column value

def read (row : Row) (reader : Reader) (column : Int) : Except ConversionError Value := do
  let value ← row.get column
  if value.isNull then return .null else convert reader column value

end Row

end SqlDialects
