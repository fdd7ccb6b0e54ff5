import SqlDialects.Json.Encoding
import SqlDialects.Json.Reader
import SqlDialects.Select
import SqlDialects.Service.Message
import SqlDialects.Table.Validation

/-!
# Forms

What the endpoints ask for, and how it is read from the body of a request.
-/

namespace SqlDialects.Service

open Checked
open Text (Points)

/-! ## Bodies -/

inductive BodyFault where
  | unreadable
  | malformed (fault : Json.Fault)
deriving DecidableEq, Repr

def bodyLimits : Json.Limits := ⟨Number.maxDigits, 950⟩

def isJsonType (contentType : String) : Bool :=
  let (kind, rest) :=
    (Text.trim (String.ofList (contentType.toList.takeWhile (· != ';')))).toLower.toList.span
      (· != '/')
  let subtype := rest.drop 1
  kind == "application".toList && !subtype.contains '/'
    && (subtype == "json".toList || "+json".toList.isSuffixOf subtype)

/-- Reads the bytes of a body.  Those that are not declared as JSON are taken for a text. -/
def readBody (request : Request) (bytes : List UInt8) : Except BodyFault (Option Value) :=
  if bytes.isEmpty then .ok none
  else if !(request.header? "content-type").any isJsonType then
    .ok (some (.text (Text.decodeUtf8Leniently (bytes.length + 1) bytes)))
  else match Json.decode? bytes with
    | none => .error .unreadable
    | some text =>
      match Json.read bodyLimits text with
      | .ok value => .ok (some value)
      | .error fault =>
        if fault.reason = .tooManyDigits ∨ fault.reason = .tooDeep then .error .unreadable
        else .error (.malformed fault)

def checkBody {α : Type} (check : Value → Checked α) (body : Option Value) : Checked α :=
  (body.elim (broken .missing .null) check).under (.key "body")

def malformedBody (fault : Json.Fault) : Violation where
  rule := .malformedJson fault.reason.message
  location := [.key "body", .index fault.position]
  input := .mapping []

/-! ## The forms -/

structure ResolveForm where
  url : Points
deriving DecidableEq, Repr

def ResolveForm.check : Value → Checked ResolveForm :=
  object .entries "ResolveRequest" fun input => ResolveForm.mk <$> required ["url"] text input

structure CreateTableForm where
  dialect : Option Points
  table : Table
  ifNotExists : Bool

def CreateTableForm.check : Value → Checked CreateTableForm :=
  object .entries "CreateTableRequest" fun input =>
    CreateTableForm.mk
      <$> optional ["dialect"] none (orNull text) input
      <*> required ["table"] (Table.check .entries) input
      <*> optional ["if_not_exists"] false boolean input

structure SchemaForm where
  dialect : Option Points
  document : Points
  ifNotExists : Bool
deriving DecidableEq, Repr

def SchemaForm.check : Value → Checked SchemaForm :=
  object .entries "SchemaDdlRequest" fun input =>
    SchemaForm.mk
      <$> optional ["dialect"] none (orNull text) input
      <*> required ["schema_yaml"] text input
      <*> optional ["if_not_exists"] false boolean input

structure SelectForm where
  dialect : Option Points
  selection : Selection
deriving DecidableEq, Repr

def checkSortKey : Value → Checked SortKey :=
  object .entries "OrderByItem" fun input =>
    SortKey.mk
      <$> required ["column"] text input
      <*> optional ["desc"] false boolean input

def checkCount (input : Value) : Checked (Option Int) :=
  (orNull natural input).map (·.map Int.ofNat)

def SelectForm.check : Value → Checked SelectForm :=
  object .entries "SelectRequest" fun input =>
    SelectForm.mk
      <$> optional ["dialect"] none (orNull text) input
      <*> (Selection.mk
        <$> required ["table"] text input
        <*> optional ["columns"] [] (listOf text) input
        <*> optional ["where"] none (orNull text) input
        <*> optional ["order_by"] [] (listOf checkSortKey) input
        <*> optional ["limit"] none checkCount input
        <*> optional ["offset"] none checkCount input)

end SqlDialects.Service
