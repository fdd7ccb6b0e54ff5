import SqlDialects.Proofs.Sql.Lexeme

/-!
# Groups and items

Parentheses and commas count only as symbols, never inside quotes.  A group ends
at the parenthesis that matches its first one, and the commas between its inner
groups part its items.  `splitItems_intercalate` and `closeGroup?_intercalate`
say that clauses which were joined by commas are found again.
-/

namespace SqlDialects.Sql

/-- The inside of a group up to its last parenthesis and what follows the group;
`depth` inner groups are open. -/
def closeGroup? : (depth : Nat) → List Lexeme → Option (List Lexeme × List Lexeme)
  | _, [] => none
  | 0, .symbol (.char ')') :: rest => some ([], rest)
  | depth + 1, .symbol (.char ')') :: rest =>
    (closeGroup? depth rest).map fun (inside, after) => (.symbol ')' :: inside, after)
  | depth, .symbol (.char '(') :: rest =>
    (closeGroup? (depth + 1) rest).map fun (inside, after) => (.symbol '(' :: inside, after)
  | depth, lexeme :: rest =>
    (closeGroup? depth rest).map fun (inside, after) => (lexeme :: inside, after)

def extendFirst (lexemes : List Lexeme) : List (List Lexeme) → List (List Lexeme)
  | [] => [lexemes]
  | item :: items => (lexemes ++ item) :: items

/-- The items of the inside of a group; `depth` inner groups are open. -/
def splitItems : (depth : Nat) → List Lexeme → List (List Lexeme)
  | _, [] => [[]]
  | 0, .symbol (.char ',') :: rest => [] :: splitItems 0 rest
  | depth, .symbol (.char '(') :: rest => extendFirst [.symbol '('] (splitItems (depth + 1) rest)
  | depth, .symbol (.char ')') :: rest => extendFirst [.symbol ')'] (splitItems (depth - 1) rest)
  | depth, lexeme :: rest => extendFirst [lexeme] (splitItems depth rest)

def withoutIndent (read : List Lexeme) : List Lexeme :=
  read.dropWhile (· = .symbol ' ')

@[simp] theorem withoutIndent_space (read : List Lexeme) :
    withoutIndent (.symbol ' ' :: read) = withoutIndent read := by
  simp [withoutIndent]

/-! ## Clauses -/

/-- What neither parts items nor opens or closes a group. -/
def Lexeme.IsBare (lexeme : Lexeme) : Prop :=
  lexeme ≠ .symbol '(' ∧ lexeme ≠ .symbol ')' ∧ lexeme ≠ .symbol ','

instance (lexeme : Lexeme) : Decidable lexeme.IsBare :=
  inferInstanceAs (Decidable (_ ∧ _ ∧ _))

/-- Lexemes whose groups are complete and that hold no comma. -/
inductive Clause : List Lexeme → Prop
  | nil : Clause []
  | cons {lexeme : Lexeme} {rest : List Lexeme} :
      lexeme.IsBare → Clause rest → Clause (lexeme :: rest)
  | group {inside rest : List Lexeme} :
      Clause inside → Clause rest → Clause (.symbol '(' :: inside ++ .symbol ')' :: rest)

theorem Clause.append {first second : List Lexeme} (hFirst : Clause first)
    (hSecond : Clause second) : Clause (first ++ second) := by
  induction hFirst with
  | nil => exact hSecond
  | cons hBare _ ih => exact .cons hBare ih
  | group hInside _ _ ih => simpa using Clause.group hInside ih

theorem Clause.ofBare {read : List Lexeme} (hBare : ∀ lexeme ∈ read, lexeme.IsBare) :
    Clause read := by
  induction read with
  | nil => exact .nil
  | cons lexeme read ih =>
      exact .cons (hBare lexeme (by simp)) (ih fun other hOther => hBare other (by simp [hOther]))

@[simp] theorem extendFirst_extendFirst (first second : List Lexeme) (items : List (List Lexeme)) :
    extendFirst first (extendFirst second items) = extendFirst (first ++ second) items := by
  cases items <;> simp [extendFirst]

theorem splitItems_ne_nil (depth : Nat) (read : List Lexeme) : splitItems depth read ≠ [] := by
  fun_cases splitItems depth read <;> simp [extendFirst] <;> split <;> simp

private theorem closeGroup?_cons {lexeme : Lexeme} (hOpen : lexeme ≠ .symbol '(')
    (hClose : lexeme ≠ .symbol ')') (depth : Nat) (rest : List Lexeme) :
    closeGroup? depth (lexeme :: rest) =
      (closeGroup? depth rest).map fun (inside, after) => (lexeme :: inside, after) := by
  rw [closeGroup?] <;> simp_all

private theorem splitItems_cons {lexeme : Lexeme} (hBare : lexeme.IsBare) (depth : Nat)
    (rest : List Lexeme) :
    splitItems depth (lexeme :: rest) = extendFirst [lexeme] (splitItems depth rest) := by
  obtain ⟨hOpen, hClose, hComma⟩ := hBare
  rw [splitItems] <;> simp_all

theorem Clause.closeGroup?_append {clause : List Lexeme} (hClause : Clause clause) (depth : Nat)
    (rest : List Lexeme) :
    closeGroup? depth (clause ++ rest) =
      (closeGroup? depth rest).map fun (inside, after) => (clause ++ inside, after) := by
  -- The inside of a group is read one level deeper, so the depth has to be general.
  induction hClause generalizing depth rest with
  | nil => simp
  | cons hBare _ ih =>
      rw [List.cons_append, closeGroup?_cons hBare.1 hBare.2.1, ih, Option.map_map]
      rfl
  | group _ _ ihInside ihRest =>
      simp only [List.cons_append, List.append_assoc, closeGroup?, ihInside, ihRest,
        Option.map_map]
      rfl

theorem Clause.splitItems_append {clause : List Lexeme} (hClause : Clause clause) (depth : Nat)
    (rest : List Lexeme) :
    splitItems depth (clause ++ rest) = extendFirst clause (splitItems depth rest) := by
  induction hClause generalizing depth rest with
  | nil =>
      obtain ⟨item, items, hItems⟩ := List.exists_cons_of_ne_nil (splitItems_ne_nil depth rest)
      simp [hItems, extendFirst]
  | cons hBare _ ih =>
      rw [List.cons_append, splitItems_cons hBare, ih, extendFirst_extendFirst]
      rfl
  | group _ _ ihInside ihRest =>
      simp [splitItems, ihInside, ihRest]

/-! ## Joined clauses -/

theorem closeGroup?_intercalate {clauses : List (List Lexeme)}
    (hClauses : ∀ clause ∈ clauses, Clause clause) (after : List Lexeme) :
    closeGroup? 0 ((symbols ", ").intercalate clauses ++ .symbol ')' :: after) =
      some ((symbols ", ").intercalate clauses, after) := by
  induction clauses with
  | nil => simp [closeGroup?]
  | cons clause clauses ih =>
      have hClause := hClauses clause (by simp)
      have hOthers := ih fun other hOther => hClauses other (by simp [hOther])
      cases clauses with
      | nil => simp [hClause.closeGroup?_append, closeGroup?]
      | cons other clauses =>
          rw [List.intercalate_cons_cons, List.append_assoc, List.append_assoc,
            hClause.closeGroup?_append, show symbols ", " = [.symbol ',', .symbol ' '] from rfl,
            List.cons_append, List.cons_append, List.nil_append,
            closeGroup?_cons (by decide) (by decide), closeGroup?_cons (by decide) (by decide)]
          rw [show [Lexeme.symbol ',', .symbol ' '] = symbols ", " from rfl, hOthers]
          simp [symbols]

/-- Joined clauses are the items, when none of them is empty or starts with a space. -/
theorem splitItems_intercalate {clauses : List (List Lexeme)} (hNotNil : clauses ≠ [])
    (hClauses : ∀ clause ∈ clauses, Clause clause)
    (hStarts : ∀ clause ∈ clauses, withoutIndent clause = clause) :
    (splitItems 0 ((symbols ", ").intercalate clauses)).map withoutIndent = clauses := by
  induction clauses with
  | nil => contradiction
  | cons clause clauses ih =>
      have hClause := hClauses clause (by simp)
      have hStart := hStarts clause (by simp)
      cases clauses with
      | nil =>
          have hSplit := hClause.splitItems_append 0 []
          simp only [List.append_nil, splitItems, extendFirst] at hSplit
          simp [hSplit, hStart]
      | cons other clauses =>
          have hOthers := ih (by simp) (fun other hOther => hClauses other (by simp [hOther]))
            (fun other hOther => hStarts other (by simp [hOther]))
          have hSeparator : symbols ", " = [.symbol ',', .symbol ' '] := rfl
          rw [hSeparator] at hOthers ⊢
          rw [List.intercalate_cons_cons, List.append_assoc, hClause.splitItems_append]
          obtain ⟨item, items, hItems⟩ := List.exists_cons_of_ne_nil
            (splitItems_ne_nil 0 ([Lexeme.symbol ',', .symbol ' '].intercalate (other :: clauses)))
          rw [hItems] at hOthers
          rw [List.map_cons] at hOthers
          simp only [List.cons_append, List.nil_append, splitItems]
          rw [splitItems_cons (by decide), hItems, ← hOthers]
          simp [extendFirst, hStart]

end SqlDialects.Sql
