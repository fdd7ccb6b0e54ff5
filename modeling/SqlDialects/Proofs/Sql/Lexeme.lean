import Mathlib.Data.List.Forall2
import SqlDialects.Dialect

/-!
# Lexemes of statements

A statement is scanned point by point.  The quote character of a dialect
opens a name and a single quote opens a literal.  Either ends at the first quote
that is not followed by another one, and a doubled quote inside stands for one.
The main statement is `Reads.enclose`: a quoted text is read back as what was
quoted, whatever comes after it but another quote.
-/

namespace SqlDialects.Sql

open Text (Points CodePoint)

inductive Lexeme where
  | symbol (point : CodePoint)
  | name (content : Points)
  | literal (content : Points)
deriving DecidableEq, Repr

/-- What a text between two quotes is, by the quote. -/
def Lexeme.quoted (quote mark : CodePoint) (content : List CodePoint) : Lexeme :=
  if mark = quote then .name ⟨content⟩ else .literal ⟨content⟩

def symbols (text : String) : List Lexeme :=
  (Points.ofString text).toList.map Lexeme.symbol

theorem symbol_mem_symbols {text : String} {c : Char} :
    Lexeme.symbol c ∈ symbols text ↔ c ∈ text.toList := by
  simp [symbols]

/-- Scans a text.  Inside quotes, the opening quote is given with what was read
after it, the last point first. -/
def lexemesFrom (quote : Char) :
    Option (CodePoint × List CodePoint) → List CodePoint → Option (List Lexeme)
  | none, [] => some []
  | none, point :: rest =>
    if point = quote ∨ point = '\'' then lexemesFrom quote (some (point, [])) rest
    else (lexemesFrom quote none rest).map (Lexeme.symbol point :: ·)
  | some _, [] => none
  | some (mark, read), [point] =>
    if point = mark then some [.quoted quote mark read.reverse] else none
  | some (mark, read), point :: next :: rest =>
    if point ≠ mark then lexemesFrom quote (some (mark, point :: read)) (next :: rest)
    else if next = mark then lexemesFrom quote (some (mark, mark :: read)) rest
    else (lexemesFrom quote none (next :: rest)).map (Lexeme.quoted quote mark read.reverse :: ·)

/-- The lexemes of a statement, unless a quote is left open. -/
def lexemes (quote : Char) (text : Points) : Option (List Lexeme) :=
  lexemesFrom quote none text.toList

/-! ## Inside quotes -/

private theorem lexemesFrom_inside {quote : Char} {mark point : CodePoint}
    (read rest : List CodePoint) (hPoint : point ≠ mark) (hRest : rest ≠ []) :
    lexemesFrom quote (some (mark, read)) (point :: rest) =
      lexemesFrom quote (some (mark, point :: read)) rest := by
  cases rest with
  | nil => contradiction
  | cons next rest => simp [lexemesFrom, hPoint]

/-- The closing quote is found after the whole text, and doubled quotes are undone. -/
theorem lexemesFrom_doubleQuotes (quote : Char) (mark : CodePoint)
    (read text rest : List CodePoint) (hRest : rest.head? ≠ some mark) :
    lexemesFrom quote (some (mark, read)) (doubleQuotes mark text ++ mark :: rest) =
      (lexemesFrom quote none rest).map (Lexeme.quoted quote mark (read.reverse ++ text) :: ·) := by
  induction text generalizing read with
  | nil =>
      cases rest with
      | nil => simp [doubleQuotes, lexemesFrom]
      | cons next rest =>
          have hNext : next ≠ mark := by simpa using hRest
          simp [doubleQuotes, lexemesFrom, hNext]
  | cons point text ih =>
      by_cases hPoint : point = mark
      · -- Both quotes of the pair are read at once.
        subst hPoint
        simp [doubleQuotes, lexemesFrom, ih]
      · have hTail : doubleQuotes mark text ++ mark :: rest ≠ [] := by simp
        simp only [doubleQuotes, hPoint, if_false, List.cons_append]
        rw [lexemesFrom_inside _ _ hPoint hTail, ih]
        simp

theorem eq_nil_of_lexemesFrom {quote : Char} {state : Option (CodePoint × List CodePoint)}
    {text : List CodePoint} (hText : lexemesFrom quote state text = some []) :
    state = none ∧ text = [] := by
  fun_induction lexemesFrom quote state text <;> simp_all

/-! ## Texts in context -/

def StartsPlain (quote : Char) (text : List CodePoint) : Prop :=
  ∀ point, text.head? = some point → point ≠ quote ∧ point ≠ '\''

def IsPlain (quote : Char) (text : List CodePoint) : Prop :=
  ∀ point ∈ text, point ≠ quote ∧ point ≠ '\''

/-- A text is read as certain lexemes before any text that no quote starts. -/
def Reads (quote : Char) (text : List CodePoint) (read : List Lexeme) : Prop :=
  ∀ rest, StartsPlain quote rest →
    lexemesFrom quote none (text ++ rest) = (lexemesFrom quote none rest).map (read ++ ·)

theorem startsPlain_nil (quote : Char) : StartsPlain quote [] := by
  intro point hHead
  simp at hHead

theorem IsPlain.startsPlain_append {quote : Char} {text : List CodePoint}
    (hPlain : IsPlain quote text) (hText : text ≠ []) (rest : List CodePoint) :
    StartsPlain quote (text ++ rest) := by
  intro point hHead
  cases text with
  | nil => contradiction
  | cons first text =>
      obtain rfl : first = point := by simpa using hHead
      exact hPlain first (by simp)

theorem Reads.nil (quote : Char) : Reads quote [] [] := by
  intro rest _
  simp

theorem lexemesFrom_plain {quote : Char} {text : List CodePoint} (hPlain : IsPlain quote text)
    (rest : List CodePoint) :
    lexemesFrom quote none (text ++ rest) =
      (lexemesFrom quote none rest).map (text.map Lexeme.symbol ++ ·) := by
  induction text with
  | nil => simp
  | cons point text ih =>
      obtain ⟨hQuote, hApostrophe⟩ := hPlain point (by simp)
      have hText : IsPlain quote text := fun other hOther => hPlain other (by simp [hOther])
      simp only [List.cons_append, lexemesFrom, hQuote, hApostrophe, or_self, if_false, ih hText,
        Option.map_map, List.map_cons]
      rfl

theorem Reads.plain_append {quote : Char} {text other : List CodePoint} {read : List Lexeme}
    (hPlain : IsPlain quote text) (hOther : Reads quote other read) :
    Reads quote (text ++ other) (text.map Lexeme.symbol ++ read) := by
  intro rest hRest
  rw [List.append_assoc, lexemesFrom_plain hPlain, hOther rest hRest, Option.map_map]
  congr 1
  funext later
  simp

theorem Reads.plain {quote : Char} {text : List CodePoint} (hPlain : IsPlain quote text) :
    Reads quote text (text.map Lexeme.symbol) := by
  simpa using Reads.plain_append hPlain (Reads.nil quote)

theorem Reads.append {quote : Char} {first second : List CodePoint}
    {firstRead secondRead : List Lexeme} (hFirst : Reads quote first firstRead)
    (hSecond : Reads quote second secondRead)
    (hStart : ∀ rest, StartsPlain quote rest → StartsPlain quote (second ++ rest)) :
    Reads quote (first ++ second) (firstRead ++ secondRead) := by
  intro rest hRest
  rw [List.append_assoc, hFirst _ (hStart rest hRest), hSecond rest hRest, Option.map_map]
  congr 1
  funext later
  simp

/-- A quoted text is one lexeme that holds what was quoted. -/
theorem Reads.enclose (quote : Char) {mark : Char} (hMark : mark = quote ∨ mark = '\'')
    (text : Points) :
    Reads quote (SqlDialects.enclose mark text).toList [.quoted quote mark text.toList] := by
  intro rest hRest
  have hHead : rest.head? ≠ some (.char mark) := by
    intro hHead
    obtain ⟨hQuote, hApostrophe⟩ := hRest mark hHead
    rcases hMark with rfl | rfl <;> contradiction
  simp only [SqlDialects.enclose, List.append_assoc, List.cons_append, List.nil_append,
    lexemesFrom, CodePoint.char.injEq, hMark, if_true]
  rw [lexemesFrom_doubleQuotes quote mark [] text.toList rest hHead]
  rfl

theorem Reads.name (quote : Char) (text : Points) :
    Reads quote (SqlDialects.enclose quote text).toList [.name text] := by
  simpa [Lexeme.quoted] using Reads.enclose quote (Or.inl rfl) text

theorem Reads.literal {quote : Char} (hQuote : quote ≠ '\'') (text : Points) :
    Reads quote (quoteLiteral text).toList [.literal text] := by
  have hApostrophe : '\'' ≠ quote := fun hEqual => hQuote hEqual.symm
  simpa [Lexeme.quoted, hApostrophe, quoteLiteral] using
    Reads.enclose quote (Or.inr rfl) text

theorem Reads.lexemes_eq {quote : Char} {text : Points} {read : List Lexeme}
    (hReads : Reads quote text.toList read) : lexemes quote text = some read := by
  simpa [lexemes, lexemesFrom] using hReads [] (startsPlain_nil quote)

theorem Reads.intercalate {quote : Char} {separator : List CodePoint}
    (hPlain : IsPlain quote separator) (hSeparator : separator ≠ [])
    {texts : List (List CodePoint)} {reads : List (List Lexeme)}
    (hReads : List.Forall₂ (Reads quote) texts reads) :
    Reads quote (separator.intercalate texts)
      ((separator.map Lexeme.symbol).intercalate reads) := by
  induction hReads with
  | nil => exact Reads.nil quote
  | cons hFirst hOthers ih =>
      cases hOthers with
      | nil => simpa using hFirst
      | cons hSecond hOthers =>
          simp only [List.intercalate_cons_cons, List.append_assoc]
          refine hFirst.append (Reads.plain_append hPlain ih) fun rest _ => ?_
          rw [List.append_assoc]
          exact hPlain.startsPlain_append hSeparator _

end SqlDialects.Sql
