import SqlDialects.Proofs.Schema.Paths
import SqlDialects.Table.Validation

/-!
# Locations of violations

A violation is found at a location that the checker wrote down: the names of the entries it
looked up and the positions of the items it went through.  All these names are plain, so the
path of a violation shows its location.  A check that fails gives at least one violation.
-/

namespace SqlDialects

namespace Checked

variable {α β : Type}

/-- All violations are found at plain locations. -/
def IsPlainlyLocated (checked : Checked α) : Prop :=
  ∀ violation ∈ checked.violations, ∀ step ∈ violation.location, step.IsPlain

/-- A check that fails says why, and where in plain steps. -/
structure Explains (checked : Checked α) : Prop where
  reason : checked ≠ .invalid []
  plain : checked.IsPlainlyLocated

@[simp] theorem explains_valid (value : α) : (valid value).Explains where
  reason := by simp
  plain := by simp [IsPlainlyLocated, violations]

@[simp] theorem explains_broken (rule : Rule) (input : Value) :
    (broken rule input : Checked α).Explains where
  reason := by simp [broken]
  plain := by simp [IsPlainlyLocated, violations, broken]

section

variable {checked : Checked α} {step : Step}

theorem Explains.map (hChecked : checked.Explains) (f : α → β) : (checked.map f).Explains := by
  cases checked with
  | valid value => simp [Checked.map]
  | invalid violations => exact ⟨by simpa [Checked.map] using hChecked.reason, hChecked.plain⟩

theorem Explains.apply {checkedFunction : Checked (α → β)} (hFunction : checkedFunction.Explains)
    (hChecked : checked.Explains) : (Checked.apply checkedFunction checked).Explains := by
  cases checkedFunction with
  | valid f =>
      cases checked with
      | valid value => simp [Checked.apply]
      | invalid violations => exact ⟨by simpa [Checked.apply] using hChecked.reason, hChecked.plain⟩
  | invalid violations =>
      constructor
      case reason =>
        have hSome : violations ≠ [] := by simpa using hFunction.reason
        simp [Checked.apply, hSome]
      case plain =>
        intro violation hViolation
        rcases List.mem_append.1 hViolation with hFirst | hSecond
        · exact hFunction.plain violation hFirst
        · exact hChecked.plain violation hSecond

theorem Explains.andThen {next : α → Checked β} (hChecked : checked.Explains)
    (hNext : ∀ value, (next value).Explains) : (checked.andThen next).Explains := by
  cases checked with
  | valid value => exact hNext value
  | invalid violations => exact ⟨by simpa [Checked.andThen] using hChecked.reason, hChecked.plain⟩

theorem Explains.under (hChecked : checked.Explains) (hStep : step.IsPlain) :
    (checked.under step).Explains := by
  cases checked with
  | valid value => simp [Checked.under]
  | invalid violations =>
      constructor
      case reason => simpa [Checked.under] using hChecked.reason
      case plain =>
        intro violation hViolation
        obtain ⟨inner, hInner, rfl⟩ := List.mem_map.1 hViolation
        simpa [Violation.under] using ⟨hStep, hChecked.plain inner hInner⟩

end

/-! ## Single values -/

theorem explains_text (input : Value) : (text input).Explains := by
  unfold text
  repeat' split
  all_goals simp

theorem explains_nonemptyText (input : Value) :
    (nonemptyText input).Explains := by
  unfold nonemptyText
  refine (explains_text _).andThen fun value => ?_
  split
  · split <;> simp
  · simp

theorem explains_numeral (content : String) (input : Value) :
    (numeral content input).Explains := by
  unfold numeral
  extract_lets
  repeat' split
  all_goals simp

theorem explains_integer (input : Value) : (integer input).Explains := by
  unfold integer
  split
  case h_3 value =>
    split
    · exact explains_broken _ _
    · extract_lets whole
      split
      · exact explains_broken _ _
      · split
        · exact explains_valid _
        · exact explains_broken _ _
  all_goals repeat' split
  all_goals first | simp | exact explains_numeral _ _

theorem explains_natural (input : Value) : (natural input).Explains := by
  refine (explains_integer input).andThen fun value => ?_
  split <;> simp

theorem explains_boolean (input : Value) : (boolean input).Explains := by
  unfold boolean
  extract_lets ofWord ofReal
  have hWord (word : String) : (ofWord word).Explains := by
    simp only [ofWord]
    split <;> simp
  have hReal (number : Float) : (ofReal number).Explains := by
    simp only [ofReal]
    repeat' split
    all_goals simp
  repeat' split
  all_goals simp only [explains_valid, explains_broken, hWord, hReal]

theorem Explains.orNull {check : Value → Checked α} {input : Value}
    (hCheck : (check input).Explains) : (Checked.orNull check input).Explains := by
  unfold Checked.orNull
  split
  · simp
  · exact hCheck.map some

/-! ## Parts of values -/

section

variable {check : Value → Checked α} (hCheck : ∀ input, (check input).Explains)
include hCheck

theorem explains_itemsFrom (position : Nat) (items : List Value) :
    (itemsFrom check position items).Explains := by
  induction items generalizing position with
  | nil => simp [itemsFrom]
  | cons item items ih =>
      have hStep : (Step.index position).IsPlain := trivial
      exact (((hCheck item).under hStep).map List.cons).apply (ih (position + 1))

theorem explains_nonemptyListOf (input : Value) :
    (nonemptyListOf check input).Explains := by
  have hList : (listOf check input).Explains := by
    unfold listOf
    split
    · exact explains_itemsFrom hCheck 0 _
    · simp
  refine hList.andThen fun items => ?_
  split <;> simp

def arePlainKeys (names : List String) : Bool :=
  names.all fun name => Step.isPlainKey name

theorem explains_required {names : List String}
    (hNames : arePlainKeys names = true) (hSome : names ≠ []) (owner : Value) :
    (required names check owner).Explains := by
  unfold required entry?
  split
  · next name value hEntry =>
    obtain ⟨other, hMem, hFound⟩ := List.exists_of_findSome?_eq_some hEntry
    obtain ⟨found, -, hPair⟩ := Option.map_eq_some_iff.1 hFound
    cases hPair
    exact (hCheck value).under (List.all_eq_true.1 hNames name hMem)
  · obtain ⟨name, rest, rfl⟩ := List.exists_cons_of_ne_nil hSome
    exact (explains_broken .missing owner).under (List.all_eq_true.1 hNames name (by simp))

theorem explains_optional {names : List String}
    (hNames : arePlainKeys names = true) (fallback : α) (owner : Value) :
    (optional names fallback check owner).Explains := by
  unfold optional entry?
  split
  · next name value hEntry =>
    obtain ⟨other, hMem, hFound⟩ := List.exists_of_findSome?_eq_some hEntry
    obtain ⟨found, -, hPair⟩ := Option.map_eq_some_iff.1 hFound
    cases hPair
    exact (hCheck value).under (List.all_eq_true.1 hNames name hMem)
  · simp

theorem explains_object (form : ObjectForm) (kind : String) (input : Value) :
    (object form kind check input).Explains := by
  unfold object
  split
  · exact hCheck _
  · simp

end

end Checked

/-! ## Tables -/

open Checked

theorem Field.explains_checkType (input : Value) :
    (Field.checkType input).Explains := by
  unfold Field.checkType
  dsimp only
  split
  · split
    · next name _ => cases SqlType.ofName? name <;> simp
    · simp
  · simp

theorem Field.explains_checkDefault (input : Value) :
    (Field.checkDefault input).Explains := by
  unfold Field.checkDefault
  split
  · simp
  · split <;> simp
  · simp
  · simp
  · simp
  · exact (explains_text _).orNull

theorem Field.explains_checkSpec (input : Value) :
    (Field.checkSpec input).Explains := by
  have hFlag {names : List String} (hNames : arePlainKeys names = true) (fallback : Bool) :
      (optional names fallback boolean input).Explains :=
    explains_optional explains_boolean hNames fallback input
  have hText {names : List String} (hNames : arePlainKeys names = true) :
      (optional names none (Checked.orNull text) input).Explains :=
    explains_optional (fun value => (explains_text value).orNull) hNames none input
  unfold Field.checkSpec
  extract_lets build
  refine .apply (.apply (.apply (.apply (.apply (.apply (.apply (.apply (.apply (.apply (.map ?name
    build) ?type) ?width) ?columnName) ?id) ?generatedId) ?sequence) ?insert) ?nullable) ?unique)
    ?default
  case name => exact explains_required explains_nonemptyText rfl (by simp) input
  case type => exact explains_required explains_checkType rfl (by simp) input
  case width => exact explains_optional explains_natural rfl 0 input
  case columnName => exact hText rfl
  case sequence => exact hText rfl
  case default => exact explains_optional explains_checkDefault rfl none input
  all_goals exact hFlag rfl _

theorem Field.explains_check (form : ObjectForm) (input : Value) :
    (Field.check form input).Explains := by
  refine explains_object (fun input => ?_) form "LogicalField" input
  refine (explains_checkSpec input).andThen fun spec => ?_
  split <;> simp

theorem Table.explains_check (form : ObjectForm) (input : Value) :
    (Table.check form input).Explains := by
  refine explains_object (fun input => ?_) form "TableSchema" input
  have hFields := explains_nonemptyListOf (Field.explains_check form)
  refine Explains.andThen (.apply (.map ?name Prod.mk) ?fields) fun (name, fields) => ?_
  case name => exact explains_required explains_nonemptyText rfl (by simp) input
  case fields => exact explains_required hFields rfl (by simp) input
  dsimp only
  split <;> simp

end SqlDialects
