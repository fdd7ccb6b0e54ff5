import SqlDialects.Validation.Violation

/-!
# Checked values

The outcome of a check: a value or the violations that were found.  Checks of
the parts of a value are independent, so that all their violations are
collected, in the order of the parts.
-/

namespace SqlDialects

inductive Checked (α : Type) where
  | valid (value : α)
  | invalid (violations : List Violation)

namespace Checked

variable {α β : Type}

def violations : Checked α → List Violation
  | valid _ => []
  | invalid violations => violations

def map (f : α → β) : Checked α → Checked β
  | valid value => valid (f value)
  | invalid violations => invalid violations

def apply : Checked (α → β) → Checked α → Checked β
  | valid f, valid value => valid (f value)
  | valid _, invalid violations => invalid violations
  | invalid violations, value => invalid (violations ++ value.violations)

instance : Functor Checked where
  map := Checked.map

instance : Applicative Checked where
  pure := valid
  seq f value := apply f (value ())

def andThen (checked : Checked α) (next : α → Checked β) : Checked β :=
  match checked with
  | valid value => next value
  | invalid violations => invalid violations

def under (step : Step) : Checked α → Checked α
  | valid value => valid value
  | invalid violations => invalid (violations.map (Violation.under step))

def broken (rule : Rule) (input : Value) : Checked α :=
  invalid [⟨rule, [], input⟩]

def toExcept : Checked α → Except (List Violation) α
  | valid value => .ok value
  | invalid violations => .error violations

def itemsFrom (check : Value → Checked α) : (position : Nat) → List Value → Checked (List α)
  | _, [] => valid []
  | position, item :: items =>
    apply ((check item).under (.index position) |>.map List.cons)
      (itemsFrom check (position + 1) items)

end Checked

end SqlDialects
