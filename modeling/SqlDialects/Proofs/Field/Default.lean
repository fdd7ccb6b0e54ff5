import SqlDialects.Field.Validation

/-!
# Defaults of field descriptions

In a description that is accepted as a field the default may be replaced by any value that
is accepted as a default, and the field changes in its default only
(`Field.check_insertDefault`).  The text of a default is accepted as it is
(`Field.checkDefault_ofPoints`).
-/

namespace SqlDialects

open Text (Points)

namespace Checked

variable {α β γ δ : Type}

/-- Whenever the first check passes, so does the second, and their values are related. -/
def Follows (related : α → β → Prop) (first : Checked α) (second : Checked β) : Prop :=
  ∀ value, first = valid value → ∃ other, second = valid other ∧ related value other

theorem Follows.refl (checked : Checked α) : Follows Eq checked checked :=
  fun value hValue => ⟨value, hValue, rfl⟩

theorem Follows.map {inner : α → β → Prop} {related : γ → δ → Prop} {first : Checked α}
    {second : Checked β} {f : α → γ} {g : β → δ} (hInner : Follows inner first second)
    (hRelated : ∀ value other, inner value other → related (f value) (g other)) :
    Follows related (f <$> first) (g <$> second) := by
  intro value hValue
  cases first with
  | invalid violations => cases hValue
  | valid argument =>
      obtain ⟨other, rfl, hOther⟩ := hInner argument rfl
      obtain rfl : f argument = value := by injection hValue
      exact ⟨g other, rfl, hRelated argument other hOther⟩

@[simp] theorem valid_seq (f : α → β) (value : α) : valid f <*> valid value = valid (f value) := rfl

theorem Follows.seq (inner : α → β → Prop) {related : γ → δ → Prop}
    {function : Checked (α → γ)} {laterFunction : Checked (β → δ)} {argument : Checked α}
    {laterArgument : Checked β}
    (hFunction : Follows (fun f g => ∀ value other, inner value other →
      related (f value) (g other)) function laterFunction)
    (hArgument : Follows inner argument laterArgument) :
    Follows related (function <*> argument) (laterFunction <*> laterArgument) := by
  intro value hValue
  cases function with
  | invalid violations => cases hValue
  | valid f =>
      cases argument with
      | invalid violations => cases hValue
      | valid argument =>
          obtain ⟨g, rfl, hRelated⟩ := hFunction f rfl
          obtain ⟨other, rfl, hOther⟩ := hArgument argument rfl
          obtain rfl : f argument = value := by injection hValue
          exact ⟨g other, rfl, hRelated argument other hOther⟩

/-! ## Entries -/

section

variable {key : String} {names : List String} (hOther : key ∉ names) (value : Value)
  (entries : List (Value × Value))
include hOther

theorem entry?_insertEntry :
    entry? names (.mapping (Value.insertEntry key value entries)) =
      entry? names (.mapping entries) := by
  unfold entry?
  induction names with
  | nil => rfl
  | cons name names ih =>
      obtain ⟨hName, hNames⟩ := List.ne_and_not_mem_of_not_mem_cons hOther
      rw [List.findSome?_cons, List.findSome?_cons, ih hNames, Value.get?_insertEntry,
        if_neg (by simpa using hName)]

theorem follows_required (check : Value → Checked α) :
    Follows Eq (required names check (.mapping entries))
      (required names check (.mapping (Value.insertEntry key value entries))) := by
  unfold required
  rw [entry?_insertEntry hOther]
  split
  · exact .refl _
  · intro found hFound
    cases hFound

theorem follows_optional (fallback : α) (check : Value → Checked α) :
    Follows Eq (optional names fallback check (.mapping entries))
      (optional names fallback check (.mapping (Value.insertEntry key value entries))) := by
  unfold optional
  rw [entry?_insertEntry hOther]
  exact .refl _

end

theorem optional_insertEntry (key : String) (value : Value) (entries : List (Value × Value))
    (fallback : α) (check : Value → Checked α) :
    optional [key] fallback check (.mapping (Value.insertEntry key value entries)) =
      (check value).under (.key key) := by
  simp [optional, entry?, Value.get?_insertEntry]

end Checked

namespace Field

open Checked

def withDefault (field : Field) (text : Points) : Field :=
  { field with default := some text }

variable {native : Value} {text : Points}

/-- The other entries of a description are checked before its default and without it. -/
theorem exists_others :
    ∃ others : Value → Checked (Option Points → FieldSpec),
      (∀ input, checkSpec input = others input <*> optional ["default"] none checkDefault input) ∧
      ∀ native entries, Follows
        (fun build rebuild => ∀ old new, rebuild new = { build old with default := new })
        (others (.mapping entries))
        (others (.mapping (Value.insertEntry "default" native entries))) := by
  refine ⟨_, fun _ => rfl, fun native entries => ?_⟩
  -- Eight optional entries follow the name and the type.
  iterate 8 refine .seq Eq ?_ (follows_optional (by decide) native entries _ _)
  refine .seq Eq (.map (follows_required (by decide) native entries _) ?_)
    (follows_required (by decide) native entries _)
  rintro name _ rfl
  intros
  subst_vars
  rfl

theorem ofSpec_eq_ok_iff {spec : FieldSpec} {field : Field} :
    ofSpec spec = .ok field ↔ field.toFieldSpec = spec := by
  constructor
  · intro hField
    unfold ofSpec at hField
    split at hField
    · split at hField
      · cases hField
        rfl
      · cases hField
    · cases hField
  · rintro rfl
    rw [ofSpec, dif_pos field.oneIdFlag, dif_pos field.insertNeedsGeneratedId]

variable {form : ObjectForm} {entries : List (Value × Value)} {field : Field}
  (hField : check form (.mapping entries) = .valid field)
include hField

/-- In an accepted description only the default has to be checked again. -/
theorem check_insertDefault (native : Value) :
    check form (.mapping (Value.insertEntry "default" native entries)) =
      ((checkDefault native).under (.key "default")).map fun text =>
        { field with default := text } := by
  obtain ⟨others, hSpec, hFollows⟩ := exists_others
  simp only [check, object, hSpec, optional_insertEntry] at hField ⊢
  cases hOthers : others (.mapping entries) with
  | invalid violations =>
      rw [hOthers] at hField
      cases hField
  | valid build =>
      cases hDefault : optional ["default"] none checkDefault (.mapping entries) with
      | invalid violations =>
          rw [hOthers, hDefault] at hField
          cases hField
      | valid old =>
          obtain ⟨rebuild, hLater, hBuilt⟩ := hFollows native entries build hOthers
          rw [hOthers, hDefault] at hField
          rw [hLater]
          cases hNative : checkDefault native with
          | invalid violations => rfl
          | valid text =>
              have hOld : ofSpec (build old) = .ok field := by
                simp only [valid_seq, andThen] at hField
                split at hField
                · next found hFound =>
                  obtain rfl : found = field := by injection hField
                  exact hFound
                · cases hField
              have hNew : ofSpec (rebuild text) = .ok { field with default := text } := by
                rw [ofSpec_eq_ok_iff] at hOld ⊢
                rw [hBuilt old text, ← hOld]
              simp only [under, valid_seq, andThen, hNew, map]

theorem check_insertDefault_valid {native : Value} {text : Points}
    (hNative : checkDefault native = .valid (some text)) :
    check form (.mapping (Value.insertEntry "default" native entries)) =
      .valid (field.withDefault text) := by
  rw [check_insertDefault hField, hNative]
  rfl

omit hField

theorem checkDefault_ofPoints (text : Points) :
    checkDefault (.ofPoints text) = .valid (some text) := by
  obtain ⟨content, rfl, hValue⟩ | ⟨content, rfl, hValue⟩ := Value.ofPoints_cases text <;>
    rw [hValue] <;> rfl

end Field

end SqlDialects
