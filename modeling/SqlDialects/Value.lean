import SqlDialects.Number.Decimal
import SqlDialects.Calendar.DateTime
import SqlDialects.Text.CodePoint
import SqlDialects.Uuid

/-!
# Dynamic values

The values that a row holds, that a document describes and that an application
stores.  Bytes come as an immutable string, as a mutable buffer or as a window
onto memory; an archived value is a string of bytes that was made by archiving
another value.  A tagged scalar is a text whose tag says that it stands for
something else.  A text that has halves of surrogate pairs is told from one of
characters (`ofPoints`).
-/

namespace SqlDialects

inductive Value where
  | null
  | boolean (value : Bool)
  | integer (value : Int)
  | real (value : Float)
  | text (value : String)
  | illFormed (content : Text.IllFormed)
  | bytes (value : List UInt8)
  | buffer (value : List UInt8)
  | window (value : List UInt8)
  | decimal (value : Decimal)
  | date (value : Date)
  | moment (value : DateTime)
  | uuid (value : Uuid)
  | list (items : List Value)
  | mapping (entries : List (Value × Value))
  | archived (content : Value)
  | tagged (content : Text.Points)
deriving Inhabited

namespace Value

def typeName : Value → String
  | null => "NoneType"
  | boolean _ => "bool"
  | integer _ => "int"
  | real _ => "float"
  | text _ | illFormed _ => "str"
  | bytes _ | archived _ => "bytes"
  | buffer _ => "bytearray"
  | window _ => "memoryview"
  | decimal _ => "Decimal"
  | date _ => "date"
  | moment _ => "datetime"
  | uuid _ => "UUID"
  | list _ => "list"
  | mapping _ => "dict"
  | tagged _ => "TaggedScalar"

def fullTypeName (value : Value) : String :=
  match value with
  | decimal _ => "decimal.Decimal"
  | date _ => "datetime.date"
  | moment _ => "datetime.datetime"
  | _ => value.typeName

def isNull : Value → Bool
  | null => true
  | _ => false

def ofPoints (points : Text.Points) : Value :=
  match points.content with
  | .inl content => text content
  | .inr content => illFormed content

def points? : Value → Option Text.Points
  | text content => some content
  | illFormed content => some content.toPoints
  | _ => none

@[simp] theorem ofPoints_ofString (content : String) : ofPoints content = text content := by
  simp [ofPoints]

theorem ofPoints_cases (points : Text.Points) :
    (∃ content : String, points = content ∧ ofPoints points = text content) ∨
      ∃ content : Text.IllFormed, points = content.toPoints ∧
        ofPoints points = illFormed content := by
  unfold ofPoints
  cases hContent : points.content with
  | inl content => exact .inl ⟨content, (Text.Points.ofString_of_content hContent).symm, rfl⟩
  | inr content => exact .inr ⟨content, (Text.Points.eq_of_content hContent).symm, rfl⟩

@[simp] theorem points?_ofPoints (points : Text.Points) :
    (ofPoints points).points? = some points := by
  obtain ⟨content, rfl, hValue⟩ | ⟨content, rfl, hValue⟩ := ofPoints_cases points <;>
    rw [hValue] <;> rfl

/-! ## Mappings -/

def get? (key : String) : Value → Option Value
  | mapping entries =>
    (entries.find? fun entry =>
      match entry.1 with
      | text name => name == key
      | _ => false).map Prod.snd
  | _ => none

/-- Sets the value under a text key; a key that is there keeps its place. -/
def insertEntry (key : Text.Points) (value : Value) : List (Value × Value) → List (Value × Value)
  | [] => [(ofPoints key, value)]
  | entry :: rest =>
    if entry.1.points? = some key then (ofPoints key, value) :: rest
    else entry :: insertEntry key value rest

theorem get?_mapping_cons (name : String) (entry : Value × Value) (rest : List (Value × Value)) :
    (mapping (entry :: rest)).get? name =
      if entry.1.points? = some (.ofString name) then some entry.2
      else (mapping rest).get? name := by
  obtain ⟨key, value⟩ := entry
  have hIllFormed (content : Text.IllFormed) : content.toPoints ≠ .ofString name := by
    intro hEqual
    have hFormed := content.not_wellFormed
    simp [hEqual] at hFormed
  cases key with
  | text other => by_cases hName : other = name <;> simp [get?, points?, hName]
  | illFormed content => simp [get?, points?, hIllFormed]
  | _ => rfl

theorem get?_insertEntry (key : Text.Points) (name : String) (value : Value)
    (entries : List (Value × Value)) :
    (mapping (insertEntry key value entries)).get? name =
      if key = .ofString name then some value else (mapping entries).get? name := by
  induction entries with
  | nil => simp only [insertEntry, get?_mapping_cons, points?_ofPoints, Option.some.injEq]
  | cons entry rest ih =>
      rw [insertEntry]
      by_cases hKey : entry.1.points? = some key
      · rw [if_pos hKey]
        simp only [get?_mapping_cons, points?_ofPoints, hKey, Option.some.injEq]
        split <;> rfl
      · rw [if_neg hKey, get?_mapping_cons, get?_mapping_cons, ih]
        by_cases hName : key = .ofString name
        · rw [if_pos hName, if_pos hName, if_neg (hName ▸ hKey)]
        · rw [if_neg hName, if_neg hName]

def record (entries : List (String × Value)) : Value :=
  mapping (entries.map fun entry => (text entry.1, entry.2))

def texts (items : List Text.Points) : Value :=
  list (items.map ofPoints)

def orNull {α : Type} (make : α → Value) : Option α → Value
  | some value => make value
  | none => null

end Value

end SqlDialects
