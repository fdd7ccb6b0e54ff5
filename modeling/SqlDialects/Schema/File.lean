import SqlDialects.Schema.Loader
import SqlDialects.Text.LineEnd
import SqlDialects.Text.Utf8

/-!
# Schema files

A schema file is read as UTF-8; all kinds of line ends count as newlines.
-/

namespace SqlDialects

inductive SchemaFileFault where
  | notFound (path : String)
  | encoding (error : Text.Utf8Error) (bytes : List UInt8)
  | schema (fault : SchemaFault)
deriving DecidableEq, Repr

namespace Schema

def normalPath (path : String) : String :=
  let steps := (path.splitOn "/").filter fun step => step ≠ "" ∧ step ≠ "."
  let relative := "/".intercalate steps
  if path.startsWith "/" then "/" ++ relative
  else if relative = "" then "."
  else relative

def loadFile (name : String) (content : Option (List UInt8)) :
    Except SchemaFileFault (List Table) :=
  let path := normalPath name
  match content with
  | none => .error (.notFound path)
  | some bytes =>
    match Text.decodeUtf8 bytes with
    | .error error => .error (.encoding error bytes)
    | .ok text => (loadText {} path (Text.unifyLineEnds text)).2.mapError .schema

end Schema

def SchemaFileFault.message : SchemaFileFault → Text.Points
  | .notFound path => .ofString ("[Errno 2] No such file or directory: " ++ Text.quoted path)
  | .encoding error bytes => error.message bytes
  | .schema fault => fault.summary

end SqlDialects
