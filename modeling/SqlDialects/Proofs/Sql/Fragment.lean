import SqlDialects.Ddl.Column
import SqlDialects.Proofs.Sql.Nesting
import SqlDialects.Proofs.Sql.Numeral

/-!
# Fragments of statements

A fragment is a text that is read as a clause wherever it stands.  Words, quoted
names, literals, groups of fragments and fragments joined by spaces are fragments.
-/

namespace SqlDialects.Sql

open Text (Points CodePoint)

def IsNameQuote (quote : Char) : Prop :=
  quote = '"' ∨ quote = '\x60'

instance (quote : Char) : Decidable (IsNameQuote quote) :=
  inferInstanceAs (Decidable (_ ∨ _))

/-- A text that is read as a clause before any text that no quote starts. -/
structure Fragment (quote : Char) (text : Points) (read : List Lexeme) : Prop where
  reads : Reads quote text.toList read
  clause : Clause read

section

variable {quote : Char} {text : Points} {read : List Lexeme}

theorem IsNameQuote.ne_apostrophe (hQuote : IsNameQuote quote) : quote ≠ '\'' := by
  rcases hQuote with rfl | rfl <;> decide

theorem IsWord.ne_of_mem {word : List Char} (hWord : IsWord word) {c other : Char}
    (hMem : c ∈ word) (hOther : isWordChar other = false) : c ≠ other := by
  rintro rfl
  simp [hWord c hMem] at hOther

theorem IsWord.isPlain {word : String} (hWord : IsWord word.toList)
    (hQuote : IsNameQuote quote) : IsPlain quote (Points.ofString word).toList := by
  intro point hPoint
  obtain ⟨c, hMem, rfl⟩ := List.mem_map.1 hPoint
  simp only [ne_eq, CodePoint.char.injEq]
  refine ⟨?_, hWord.ne_of_mem hMem (by decide)⟩
  rcases hQuote with rfl | rfl <;> exact hWord.ne_of_mem hMem (by decide)

theorem IsWord.clause {word : String} (hWord : IsWord word.toList) : Clause (symbols word) := by
  apply Clause.ofBare
  intro lexeme hLexeme
  simp only [symbols, Points.toList_ofString, List.map_map, List.mem_map] at hLexeme
  obtain ⟨c, hMem, rfl⟩ := hLexeme
  simp only [Lexeme.IsBare, ne_eq, Function.comp_apply, Lexeme.symbol.injEq, CodePoint.char.injEq]
  exact ⟨hWord.ne_of_mem hMem (by decide), hWord.ne_of_mem hMem (by decide),
    hWord.ne_of_mem hMem (by decide)⟩

theorem Fragment.word {word : String} (hQuote : IsNameQuote quote)
    (hWord : IsWord word.toList) : Fragment quote word (symbols word) :=
  ⟨Reads.plain (hWord.isPlain hQuote), hWord.clause⟩

theorem Fragment.name (quote : Char) (text : Points) :
    Fragment quote (enclose quote text) [.name text] :=
  ⟨Reads.name quote text, .cons (by simp [Lexeme.IsBare]) .nil⟩

theorem Fragment.literal (hQuote : IsNameQuote quote) (text : Points) :
    Fragment quote (quoteLiteral text) [.literal text] :=
  ⟨Reads.literal hQuote.ne_apostrophe text, .cons (by simp [Lexeme.IsBare]) .nil⟩

theorem Fragment.wordAppend {word : String} (hQuote : IsNameQuote quote)
    (hWord : IsWord word.toList) (hText : Fragment quote text read) :
    Fragment quote (word ++ text) (symbols word ++ read) :=
  ⟨Reads.plain_append (hWord.isPlain hQuote) hText.reads, hWord.clause.append hText.clause⟩

theorem Fragment.appendWord {word : String} (hQuote : IsNameQuote quote)
    (hWord : IsWord word.toList) (hNonempty : word ≠ "") (hText : Fragment quote text read) :
    Fragment quote (text ++ word) (read ++ symbols word) := by
  constructor
  · exact hText.reads.append (Reads.plain (hWord.isPlain hQuote)) fun rest _ =>
      (hWord.isPlain hQuote).startsPlain_append (by simpa using hNonempty) rest
  · exact hText.clause.append hWord.clause

theorem Fragment.group (hQuote : IsNameQuote quote) {word opening : String}
    (hWord : IsWord word.toList) (hOpening : opening = word ++ "(")
    (hText : Fragment quote text read) :
    Fragment quote (opening ++ text ++ ")") (symbols opening ++ read ++ [.symbol ')']) := by
  have hClose : IsPlain quote [.char ')'] := by
    rcases hQuote with rfl | rfl <;> simp [IsPlain]
  have hOpen : IsPlain quote [.char '('] := by
    rcases hQuote with rfl | rfl <;> simp [IsPlain]
  subst hOpening
  constructor
  · have hInside := hText.reads.append (Reads.plain hClose) fun rest _ =>
      hClose.startsPlain_append (by simp) rest
    have hGroup := Reads.plain_append (hWord.isPlain hQuote) (Reads.plain_append hOpen hInside)
    simpa [symbols] using hGroup
  · have hGroup := hWord.clause.append (Clause.group hText.clause .nil)
    simpa [symbols] using hGroup

end

/-! ## Joined words -/

/-- What words are read as when they are joined by spaces. -/
def joinReads (reads : List (List Lexeme)) : List Lexeme :=
  (symbols " ").intercalate (reads.filter (· ≠ []))

theorem joinReads_cons_cons {first second : List Lexeme} (hFirst : first ≠ [])
    (hSecond : second ≠ []) (reads : List (List Lexeme)) :
    joinReads (first :: second :: reads) = first ++ symbols " " ++ joinReads (second :: reads) := by
  simp [joinReads, hFirst, hSecond]

theorem infix_intercalate {separator read : List Lexeme} {reads : List (List Lexeme)}
    (hMem : read ∈ reads) : read <:+: separator.intercalate reads := by
  induction reads with
  | nil => cases hMem
  | cons first reads ih =>
      cases reads with
      | nil => simp [List.mem_singleton.1 hMem]
      | cons second reads =>
          rw [List.intercalate_cons_cons]
          rcases List.mem_cons.1 hMem with rfl | hOther
          · rw [List.append_assoc]
            exact (List.prefix_append _ _).isInfix
          · exact (ih hOther).trans (List.suffix_append _ _).isInfix

theorem infix_joinReads {read : List Lexeme} {reads : List (List Lexeme)} (hMem : read ∈ reads) :
    read <:+: joinReads reads := by
  by_cases hEmpty : read = []
  · simp [hEmpty]
  · exact infix_intercalate (by simp [hMem, hEmpty])

theorem Reads.eq_nil_iff {quote : Char} {text : List CodePoint} {read : List Lexeme}
    (hReads : Reads quote text read) : read = [] ↔ text = [] := by
  have hAlone : lexemesFrom quote none text = some read := by
    simpa [lexemesFrom] using hReads [] (startsPlain_nil quote)
  constructor
  · rintro rfl
    exact (eq_nil_of_lexemesFrom hAlone).2
  · rintro rfl
    simpa [lexemesFrom, eq_comm] using hAlone

theorem Clause.intercalate {separator : List Lexeme} (hSeparator : Clause separator)
    {clauses : List (List Lexeme)} (hClauses : ∀ clause ∈ clauses, Clause clause) :
    Clause (separator.intercalate clauses) := by
  induction clauses with
  | nil => exact .nil
  | cons clause clauses ih =>
      have hClause := hClauses clause (by simp)
      have hOthers := ih fun other hOther => hClauses other (by simp [hOther])
      cases clauses with
      | nil => simpa using hClause
      | cons other clauses =>
          rw [List.intercalate_cons_cons]
          exact (hClause.append hSeparator).append hOthers

theorem forall_of_forall₂ {α β : Type} {R : α → β → Prop} {p : β → Prop} {firsts : List α}
    {seconds : List β} (hAll : List.Forall₂ R firsts seconds)
    (hRight : ∀ first second, R first second → p second) : ∀ second ∈ seconds, p second := by
  induction hAll with
  | nil => simp
  | cons hHead _ ih => simpa using ⟨hRight _ _ hHead, ih⟩

theorem Fragment.joinWords {quote : Char} (hQuote : IsNameQuote quote) {words : List Points}
    {reads : List (List Lexeme)} (hWords : List.Forall₂ (Fragment quote) words reads) :
    Fragment quote (Dialect.joinWords words) (joinReads reads) := by
  have hFilter : List.Forall₂ (Fragment quote) (words.filter (· ≠ ("" : Points)))
      (reads.filter (· ≠ [])) := by
    induction hWords with
    | nil => exact .nil
    | @cons word read words reads hWord _ ih =>
        have hEmpty : word = "" ↔ read = [] := by
          rw [hWord.reads.eq_nil_iff, Points.toList_eq_nil_iff]
        by_cases hRead : read = []
        · simpa [hEmpty, hRead] using ih
        · simpa [hEmpty, hRead, hWord] using ih
  have hSpace : IsWord " ".toList := by decide
  constructor
  · rw [Dialect.joinWords, Points.toList_intercalate]
    refine Reads.intercalate (hSpace.isPlain hQuote) (by decide) ?_
    rw [List.forall₂_map_left_iff]
    exact hFilter.imp fun _ _ hFragment => hFragment.reads
  · exact Clause.intercalate hSpace.clause
      (forall_of_forall₂ hFilter fun _ _ hFragment => hFragment.clause)

end SqlDialects.Sql
