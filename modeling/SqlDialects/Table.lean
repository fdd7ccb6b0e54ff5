import SqlDialects.Field

/-!
# Tables

A table is a named list of fields whose columns have different names and of
which at most one is an id.
-/

namespace SqlDialects

/-! ## Repetitions -/

def firstRepeated? {α : Type} [DecidableEq α] : (seen : List α) → List α → Option α
  | _, [] => none
  | seen, item :: items =>
    if item ∈ seen then some item else firstRepeated? (item :: seen) items

theorem firstRepeated?_eq_none_iff {α : Type} [DecidableEq α] (seen items : List α) :
    firstRepeated? seen items = none ↔ items.Nodup ∧ ∀ item ∈ items, item ∉ seen := by
  induction items generalizing seen with
  | nil => simp [firstRepeated?]
  | cons item items ih =>
    by_cases h : item ∈ seen
    · simp [firstRepeated?, h]
    · simp only [firstRepeated?, h, if_false, ih, List.nodup_cons, List.mem_cons, not_or,
        forall_eq_or_imp]
      constructor
      · rintro ⟨hNodup, hFresh⟩
        exact ⟨⟨fun hMem => (hFresh item hMem).1 rfl, hNodup⟩, not_false,
          fun other hOther => (hFresh other hOther).2⟩
      · rintro ⟨⟨hItem, hNodup⟩, -, hFresh⟩
        exact ⟨hNodup, fun other hOther =>
          ⟨fun hEq => hItem (hEq ▸ hOther), hFresh other hOther⟩⟩

/-! ## The type -/

structure Table where
  name : String
  fields : List Field
  name_ne_empty : name ≠ ""
  fields_ne_nil : fields ≠ []
  columns_nodup : (fields.map fun field => field.column).Nodup
  oneId : (fields.filter fun field => field.isId).length ≤ 1
deriving Repr

theorem Table.eq_iff {table other : Table} :
    table = other ↔ table.name = other.name ∧ table.fields = other.fields := by
  cases table
  cases other
  simp

instance : DecidableEq Table := fun _ _ =>
  decidable_of_iff _ Table.eq_iff.symm

inductive TableFault where
  | repeatedColumn (table : String) (column : Text.Points)
  | severalIds (table : String) (fields : List String)
deriving DecidableEq, Repr

def TableFault.message : TableFault → Text.Points
  | .repeatedColumn table column =>
    .ofString ("Table '" ++ table ++ "' has duplicate column '") ++ column ++ "'"
  | .severalIds table fields =>
    .ofString ("Table '" ++ table ++ "' has more than one id field: " ++ ", ".intercalate fields)

namespace Table

/-- The columns are checked before the ids. -/
def ofFields (name : { name : String // name ≠ "" })
    (fields : { fields : List Field // fields ≠ [] }) : Except TableFault Table :=
  match hRepeated : firstRepeated? [] (fields.val.map fun field => field.column) with
  | some column => .error (.repeatedColumn name.val column)
  | none =>
    let ids := fields.val.filter fun field => field.isId
    if hIds : ids.length ≤ 1 then
      .ok {
        name := name.val
        fields := fields.val
        name_ne_empty := name.property
        fields_ne_nil := fields.property
        columns_nodup := ((firstRepeated?_eq_none_iff [] _).1 hRepeated).1
        oneId := hIds }
    else .error (.severalIds name.val (ids.map fun field => field.name))

def idField? (table : Table) : Option Field :=
  table.fields.find? fun field => field.isId

end Table

end SqlDialects
