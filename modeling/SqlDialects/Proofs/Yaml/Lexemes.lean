import SqlDialects.Proofs.Yaml.TokenPlaces

/-!
# The lexemes that hold ampersands

Reading a text to its end makes its tokens and its comments.  Between them stand blanks and
line breaks only, and indicators are no ampersands.  So each ampersand of the text is part of
a comment, a scalar, a tag, a directive, an anchor or an alias
(`TokenStream.exists_lexeme_of_ampersand`).
-/

namespace SqlDialects.Yaml

/-- The kinds of tokens in which any characters may stand. -/
def TokenKind.isText : TokenKind → Bool
  | .comment _ | .scalar .. | .tag .. | .directive _ => true
  | _ => false

/-- The kinds of tokens that may hold ampersands. -/
def TokenKind.isWritten (kind : TokenKind) : Bool :=
  kind.isText || kind.isAnchor || kind.isAlias

/-- A position of a text is between the start and the stop of a token. -/
def Token.Spans (token : Token) (content : List Char) (position : Nat) : Prop :=
  ∃ first last, token.start = markAt content first ∧ token.stop = markAt content last ∧
    first ≤ position ∧ position < last

/-! ## Cursors -/

namespace Cursor

/-- The second cursor is reached from the first one without an ampersand. -/
def Passes (cursor after : Cursor) : Prop :=
  ∃ count, cursor.skip count = after ∧ ∀ ahead < count, cursor.peek ahead ≠ some '&'

section

variable {cursor middle after : Cursor}

theorem Passes.reaches (hPasses : cursor.Passes after) : cursor.Reaches after := by
  obtain ⟨count, hAfter, -⟩ := hPasses
  exact ⟨count, hAfter⟩

theorem Passes.refl (cursor : Cursor) : cursor.Passes cursor :=
  ⟨0, rfl, by simp⟩

theorem peek_skip (count ahead : Nat) (cursor : Cursor) :
    (cursor.skip count).peek ahead = cursor.peek (count + ahead) := by
  rw [peek, peek, skip_rest, List.getElem?_drop]

theorem Passes.trans (hFirst : cursor.Passes middle) (hSecond : middle.Passes after) :
    cursor.Passes after := by
  obtain ⟨first, rfl, hBefore⟩ := hFirst
  obtain ⟨second, rfl, hBehind⟩ := hSecond
  refine ⟨first + second, skip_add first second cursor, fun ahead hAhead => ?_⟩
  by_cases hEarly : ahead < first
  · exact hBefore ahead hEarly
  · have hLate := hBehind (ahead - first) (by omega)
    rwa [peek_skip, Nat.add_sub_cancel' (Nat.le_of_not_lt hEarly)] at hLate

theorem passes_next (hFirst : cursor.peek 0 ≠ some '&') : cursor.Passes cursor.next := by
  refine ⟨1, rfl, fun ahead hAhead => ?_⟩
  obtain rfl : ahead = 0 := by omega
  exact hFirst

theorem passes_takeUntilFrom {stops : Char → Option Char → Bool}
    (hStops : ∀ next, stops '&' next = true) (rest read : List Char) (hRest : cursor.rest = rest) :
    cursor.Passes (takeUntilFrom stops rest read cursor).2 := by
  induction rest generalizing read cursor with
  | nil => exact Passes.refl cursor
  | cons c rest ih =>
      unfold takeUntilFrom
      split
      · exact Passes.refl cursor
      · next hTaken =>
        have hFirst : cursor.peek 0 ≠ some '&' := by
          rw [peek, hRest]
          rintro hAmpersand
          cases hAmpersand
          exact hTaken (hStops rest.head?)
        have hNext : cursor.next.rest = rest := by
          rw [show cursor.next = cursor.skip 1 from rfl, skip_rest, hRest, List.drop_one,
            List.tail_cons]
        exact (passes_next hFirst).trans (ih (c :: read) hNext)

theorem passes_takeWhile {taken : Char → Bool} (hTaken : taken '&' = false) (cursor : Cursor) :
    cursor.Passes (cursor.takeWhile taken).2 :=
  passes_takeUntilFrom (fun _ => by simp [hTaken]) cursor.rest [] rfl

theorem passes_skipWhile {skipped : Char → Bool} (hSkipped : skipped '&' = false)
    (cursor : Cursor) : cursor.Passes (cursor.skipWhile skipped) :=
  passes_takeWhile hSkipped cursor

theorem passes_of_lineBreak {c : Char} (hBreak : cursor.lineBreak? = some (c, after)) :
    cursor.Passes after := by
  unfold lineBreak? at hBreak
  split at hBreak
  · next rest hRest =>
    cases hBreak
    refine ⟨2, rfl, fun ahead hAhead => ?_⟩
    rw [peek, hRest]
    match ahead, hAhead with
    | 0, _ => simp
    | 1, _ => simp
  · next first rest _ hRest =>
    have hFirst (hOther : first ≠ '&') : cursor.Passes cursor.next :=
      passes_next (by simpa [peek, hRest] using hOther)
    split at hBreak
    · next hKept =>
      cases hBreak
      exact hFirst (by rintro rfl; simp at hKept)
    · split at hBreak
      · next hRead =>
        cases hBreak
        exact hFirst (by rintro rfl; simp [isBreak] at hRead)
      · cases hBreak
  · cases hBreak

theorem passes_of_startsWith {c : Char} (hOther : c ≠ '&') (hStart : cursor.startsWith c = true) :
    cursor.Passes (cursor.skip 3) := by
  unfold startsWith at hStart
  split at hStart
  · next first second third rest hRest =>
    simp only [Bool.and_eq_true, beq_iff_eq] at hStart
    obtain ⟨⟨⟨rfl, rfl⟩, rfl⟩, -⟩ := hStart
    refine ⟨3, rfl, fun ahead hAhead => ?_⟩
    rw [peek, hRest]
    match ahead, hAhead with
    | 0, _ => simpa using hOther
    | 1, _ => simpa using hOther
    | 2, _ => simpa using hOther
  · cases hStart

end

end Cursor

open Cursor

/-! ## Gaps of plain scalars -/

theorem passes_readPlainBreaks (fuel : Nat) (read : List Char) (cursor : Cursor) :
    cursor.Passes (readPlainBreaks fuel read cursor).2 := by
  fun_induction readPlainBreaks fuel read cursor with
  | case1 read cursor => exact Passes.refl cursor
  | case2 fuel read cursor c after hBreak hSeparator => exact passes_of_lineBreak hBreak
  | case3 fuel read cursor c after hBreak hSeparator ih =>
      exact (passes_of_lineBreak hBreak).trans ih
  | case4 fuel read cursor hBreak hSpace ih =>
      exact (passes_next (by simp [hSpace])).trans ih
  | case5 fuel read cursor hBreak hSpace => exact Passes.refl cursor

theorem passes_readPlainGap (fuel : Nat) (cursor : Cursor) :
    cursor.Passes (readPlainGap fuel cursor).cursor := by
  have hSpaces : cursor.Passes (cursor.takeWhile (· == ' ')).2 := passes_takeWhile rfl cursor
  unfold readPlainGap
  dsimp only
  split
  · exact hSpaces
  · next first after hBreak =>
    have hAfter := hSpaces.trans (passes_of_lineBreak hBreak)
    have hBreaks := hAfter.trans (passes_readPlainBreaks fuel [] after)
    split
    · exact hAfter
    · split
      · next hNone => simpa [hNone] using hBreaks
      · next hSome => simpa [hSome] using hBreaks

/-- What is read behind the place where a plain scalar stops is a gap.  In the middle of the
scalar, the gap that was read last comes before the cursor. -/
theorem exists_stop_of_readPlainParts (version : Version) (inFlow : Bool) (indent : Int)
    (fuel : Nat) (gap read : List Char) (newLine : Bool) {before cursor : Cursor}
    (hGap : before.Passes cursor) :
    ∃ middle, before.Reaches middle ∧
      (readPlainParts version inFlow indent fuel gap read before.mark newLine cursor).stop =
        middle.mark ∧
      middle.Passes
        (readPlainParts version inFlow indent fuel gap read before.mark newLine cursor).cursor := by
  induction fuel generalizing gap read newLine before cursor with
  | zero => exact ⟨before, Reaches.refl before, rfl, hGap⟩
  | succ fuel ih =>
      have hPart := hGap.reaches.trans (reaches_takeUntil (plainStops version inFlow) cursor)
      have hBehind := passes_readPlainGap fuel (cursor.takeUntil (plainStops version inFlow)).2
      unfold readPlainParts
      dsimp only
      split
      · exact ⟨before, Reaches.refl before, rfl, hGap⟩
      · split
        · exact ⟨before, Reaches.refl before, rfl, hGap⟩
        · split
          · exact ⟨_, hPart, rfl, hBehind⟩
          · obtain ⟨middle, hMiddle, hStop, hLast⟩ := ih _ _ _ hBehind
            exact ⟨middle, hPart.trans hMiddle, hStop, hLast⟩

/-! ## States of reading -/

namespace Lexer

/-- Reading goes on, and each ampersand before the cursor is part of a token. -/
structure Covers (content : List Char) (lexer : Lexer) : Prop where
  notDone : lexer.isDone = false
  covered : ∃ position, (Cursor.start content).skip position = lexer.cursor ∧
    ∀ earlier < position, content[earlier]? = some '&' →
      ∃ token ∈ lexer.tokens, token.kind.isWritten = true ∧ token.Spans content earlier

/-- All of a text was read, and each ampersand is part of a token. -/
structure CoversAll (content : List Char) (lexer : Lexer) : Prop where
  isDone : lexer.isDone = true
  covered : ∀ position, content[position]? = some '&' →
    ∃ token ∈ lexer.tokens, token.kind.isWritten = true ∧ token.Spans content position

/-- The tokens of a state are tokens of another one, perhaps with other comments, and neither
or both have read all. -/
structure Keeps (lexer other : Lexer) : Prop where
  isDone : other.isDone = lexer.isDone
  tokens : ∀ token ∈ lexer.tokens, ∃ kept ∈ other.tokens,
    kept.kind = token.kind ∧ kept.start = token.start ∧ kept.stop = token.stop

/-- Tokens are added, and nothing is read. -/
structure Extends (lexer other : Lexer) : Prop extends lexer.Keeps other where
  cursor : other.cursor = lexer.cursor

section

variable {content : List Char} {lexer other : Lexer} {kind : TokenKind}

theorem Keeps.of_subset (hDone : other.isDone = lexer.isDone)
    (hTokens : lexer.tokens ⊆ other.tokens) : lexer.Keeps other :=
  ⟨hDone, fun token hToken => ⟨token, hTokens hToken, rfl, rfl, rfl⟩⟩

theorem Keeps.trans {last : Lexer} (hFirst : lexer.Keeps other) (hSecond : other.Keeps last) :
    lexer.Keeps last := by
  refine ⟨hSecond.isDone.trans hFirst.isDone, fun token hToken => ?_⟩
  obtain ⟨kept, hKept, hKind, hStart, hStop⟩ := hFirst.tokens token hToken
  obtain ⟨twice, hTwice, hKind', hStart', hStop'⟩ := hSecond.tokens kept hKept
  exact ⟨twice, hTwice, hKind'.trans hKind, hStart'.trans hStart, hStop'.trans hStop⟩

theorem Keeps.covered (hKeeps : lexer.Keeps other) {position : Nat}
    (hCovered : ∃ token ∈ lexer.tokens,
      token.kind.isWritten = true ∧ token.Spans content position) :
    ∃ token ∈ other.tokens, token.kind.isWritten = true ∧ token.Spans content position := by
  obtain ⟨token, hToken, hWritten, hSpans⟩ := hCovered
  obtain ⟨kept, hKept, hKind, hStart, hStop⟩ := hKeeps.tokens token hToken
  refine ⟨kept, hKept, by rw [hKind]; exact hWritten, ?_⟩
  unfold Token.Spans
  rw [hStart, hStop]
  exact hSpans

theorem Covers.advance (hCovers : lexer.Covers content) (hKeeps : lexer.Keeps other) {count : Nat}
    (hCount : lexer.cursor.skip count = other.cursor)
    (hRead : ∀ position, (Cursor.start content).skip position = lexer.cursor →
      ∀ ahead < count, lexer.cursor.peek ahead = some '&' → ∃ token ∈ other.tokens,
        token.kind.isWritten = true ∧ token.Spans content (position + ahead)) :
    other.Covers content := by
  obtain ⟨position, hPosition, hCovered⟩ := hCovers.covered
  refine ⟨hKeeps.isDone.trans hCovers.notDone, position + count, ?_, ?_⟩
  · rw [skip_add, hPosition, hCount]
  · intro earlier hEarlier hAmpersand
    by_cases hBefore : earlier < position
    · exact hKeeps.covered (hCovered earlier hBefore hAmpersand)
    · have hSplit : position + (earlier - position) = earlier :=
        Nat.add_sub_cancel' (Nat.le_of_not_lt hBefore)
      have hNew := hRead position hPosition (earlier - position) (by omega)
      rw [← hPosition, peek_skip, hSplit] at hNew
      exact hNew hAmpersand

theorem Covers.pass (hCovers : lexer.Covers content) (hKeeps : lexer.Keeps other)
    (hGap : lexer.cursor.Passes other.cursor) : other.Covers content := by
  obtain ⟨count, hCount, hFree⟩ := hGap
  exact hCovers.advance hKeeps hCount fun _ _ ahead hAhead hAmpersand =>
    absurd hAmpersand (hFree ahead hAhead)

theorem Covers.moveTo (hCovers : lexer.Covers content) {after : Cursor}
    (hGap : lexer.cursor.Passes after) : Covers content { lexer with cursor := after } :=
  hCovers.pass (.of_subset rfl (List.Subset.refl _)) hGap

theorem Covers.extend (hCovers : lexer.Covers content) (hExtends : lexer.Extends other) :
    other.Covers content := by
  refine hCovers.pass hExtends.toKeeps ?_
  rw [hExtends.cursor]
  exact Passes.refl _

theorem Covers.pushTo (hCovers : lexer.Covers content) (hKind : kind.isWritten = true)
    {after : Cursor} (hAfter : lexer.cursor.Reaches after) :
    (lexer.pushTo kind after).Covers content := by
  obtain ⟨count, rfl⟩ := hAfter
  refine hCovers.advance (.of_subset rfl (List.subset_cons_self _ _)) rfl ?_
  intro position hPosition ahead hAhead _
  refine ⟨_, List.mem_cons_self, hKind, position, position + count, ?_, ?_, by omega, by omega⟩
  · rw [markAt, hPosition]
  · rw [markAt, skip_add, hPosition]

theorem Covers.pushChars (hCovers : lexer.Covers content) {length : Nat}
    (hFree : lexer.cursor.Passes (lexer.cursor.skip length)) :
    (lexer.pushChars kind length).Covers content :=
  hCovers.pass (.of_subset rfl (List.subset_cons_self _ _)) hFree

theorem extends_pushEmpty (kind : TokenKind) (lexer : Lexer) :
    lexer.Extends (lexer.pushEmpty kind) where
  toKeeps := .of_subset rfl (List.subset_cons_self _ _)
  cursor := rfl

theorem extends_insert (kind : TokenKind) (before : Nat) (mark : Mark) (lexer : Lexer) :
    lexer.Extends (lexer.insert kind before mark) where
  toKeeps := by
    refine .of_subset rfl fun token hToken => ?_
    rw [← List.take_append_drop (lexer.count - before) lexer.tokens] at hToken
    rcases List.mem_append.1 hToken with hLater | hEarlier
    · exact List.mem_append_left _ hLater
    · exact List.mem_append_right _ (List.mem_cons_of_mem _ hEarlier)
  cursor := rfl

theorem extends_withComments (comments : Comments) (lexer : Lexer) :
    lexer.Extends (lexer.withComments comments) := by
  unfold withComments
  split
  · exact ⟨.of_subset rfl (List.Subset.refl _), rfl⟩
  · next token tokens hTokens =>
    refine ⟨⟨rfl, fun other hOther => ?_⟩, rfl⟩
    rw [hTokens] at hOther
    rcases List.mem_cons.1 hOther with rfl | hEarlier
    · exact ⟨_, List.mem_cons_self, rfl, rfl, rfl⟩
    · exact ⟨other, List.mem_cons_of_mem _ hEarlier, rfl, rfl, rfl⟩

theorem Extends.trans {last : Lexer} (hFirst : lexer.Extends other)
    (hSecond : other.Extends last) : lexer.Extends last :=
  ⟨hFirst.toKeeps.trans hSecond.toKeeps, hSecond.cursor.trans hFirst.cursor⟩

theorem Extends.of_eq (hDone : other.isDone = lexer.isDone) (hTokens : other.tokens = lexer.tokens)
    (hCursor : other.cursor = lexer.cursor) : lexer.Extends other :=
  ⟨.of_subset hDone (hTokens ▸ List.Subset.refl _), hCursor⟩

/-! ## Gaps, candidates and indentation -/

theorem Covers.skipGap (hCovers : lexer.Covers content) (fuel : Nat) :
    (lexer.skipGap fuel).Covers content := by
  have hComment (text : String) : TokenKind.isWritten (.comment text) = true := rfl
  induction fuel generalizing lexer with
  | zero => exact hCovers
  | succ fuel ih =>
      have hSpaces : lexer.cursor.Passes
          (lexer.cursor.skipWhile fun c => c == ' ' || (lexer.inFlow && c == '\t')) :=
        passes_skipWhile (by simp) lexer.cursor
      unfold Lexer.skipGap
      dsimp only
      split
      · apply ih
        have hRead (text : String) :=
          (hCovers.moveTo hSpaces).pushTo (hComment text) (reaches_readComment fuel _)
        exact (hRead _).extend (.of_eq rfl rfl rfl)
      · split
        · exact hCovers.moveTo hSpaces
        · next after hBreak =>
          have hAfter : Covers content
              { lexer with cursor := after, keysAllowed := lexer.keysAllowed || !lexer.inFlow } :=
            (hCovers.moveTo (hSpaces.trans (passes_of_lineBreak hBreak))).extend
              (.of_eq rfl rfl rfl)
          split
          · exact ih (hAfter.pushTo (hComment _) (reaches_readEmptyLines _))
          · exact ih hAfter

theorem Covers.skipByteOrderMark (hCovers : lexer.Covers content) :
    lexer.skipByteOrderMark.Covers content := by
  unfold Lexer.skipByteOrderMark
  split
  · next hMark =>
    exact hCovers.moveTo (passes_next (by simp [hMark.2]))
  · exact hCovers

theorem extends_dropStaleCandidates (lexer : Lexer) :
    Yields lexer.Extends lexer.dropStaleCandidates := by
  unfold dropStaleCandidates
  split
  · exact Yields.error _
  · exact Yields.ok (.of_eq rfl rfl rfl)

theorem extends_dropCandidate (lexer : Lexer) : Yields lexer.Extends lexer.dropCandidate := by
  unfold dropCandidate
  split
  · exact Yields.error _
  · exact Yields.ok (.of_eq rfl rfl rfl)

theorem extends_saveCandidate (lexer : Lexer) : Yields lexer.Extends lexer.saveCandidate := by
  unfold saveCandidate
  split
  · refine Yields.bind fun other hOther => Yields.ok ?_
    exact (extends_dropCandidate lexer other hOther).trans (.of_eq rfl rfl rfl)
  · exact Yields.ok (.of_eq rfl rfl rfl)

theorem extends_unwindFrom (column : Int) (outer : List Int) (lexer : Lexer) :
    lexer.Extends (lexer.unwindFrom column outer) := by
  induction outer generalizing lexer with
  | nil =>
      unfold unwindFrom
      split
      · exact .of_eq rfl rfl rfl
      · exact (extends_pushEmpty .blockEnd lexer).trans (.of_eq rfl rfl rfl)
  | cons indent outer ih =>
      unfold unwindFrom
      dsimp only
      split
      · exact .of_eq rfl rfl rfl
      · refine .trans ?_ (ih _)
        exact (extends_pushEmpty .blockEnd lexer).trans (.of_eq rfl rfl rfl)

theorem extends_unwind (column : Int) (lexer : Lexer) : lexer.Extends (lexer.unwind column) := by
  unfold unwind
  split
  · exact .of_eq rfl rfl rfl
  · exact extends_unwindFrom column _ lexer

theorem extends_indentTo (column : Nat) (lexer : Lexer) :
    lexer.Extends (lexer.indentTo column).2 := by
  unfold indentTo
  split <;> exact .of_eq rfl rfl rfl

theorem extends_openBlock (kind : TokenKind) (lexer : Lexer) :
    lexer.Extends (lexer.openBlock kind) := by
  have hIndented := extends_indentTo lexer.cursor.column lexer
  unfold openBlock
  dsimp only
  split
  · exact hIndented.trans (extends_pushEmpty kind _)
  · exact hIndented

theorem extends_endDocument (lexer : Lexer) : Yields lexer.Extends lexer.endDocument := by
  refine Yields.bind fun other hOther => Yields.ok ?_
  exact ((extends_unwind (-1) lexer).trans (extends_dropCandidate _ other hOther)).trans
    (.of_eq rfl rfl rfl)

theorem extends_acceptCandidate (candidate : KeyCandidate) (lexer : Lexer) :
    lexer.Extends (lexer.acceptCandidate candidate) := by
  let waiting := { lexer with
    candidates := lexer.candidates.filter fun other => other.level != candidate.level }
  let accepted := waiting.insert .key candidate.before candidate.mark
  let indented := if accepted.inFlow then (false, accepted)
    else accepted.indentTo candidate.mark.column
  have hAccepted : lexer.Extends accepted :=
    (show lexer.Extends waiting from .of_eq rfl rfl rfl).trans (extends_insert _ _ _ waiting)
  have hIndented : lexer.Extends indented.2 := by
    unfold indented
    split
    · exact hAccepted
    · exact hAccepted.trans (extends_indentTo _ accepted)
  have hOpened : lexer.Extends (if indented.1 then
      indented.2.insert .blockMappingStart candidate.before candidate.mark else indented.2) := by
    split
    · exact hIndented.trans (extends_insert _ _ _ _)
    · exact hIndented
  exact hOpened.trans (.of_eq rfl rfl rfl)

theorem extends_opened (kind : TokenKind) (lexer : Lexer) :
    lexer.Extends (if lexer.inFlow then lexer else lexer.openBlock kind) := by
  split
  · exact .of_eq rfl rfl rfl
  · exact extends_openBlock kind lexer

theorem extends_readBareValue (lexer : Lexer) : Yields lexer.Extends lexer.readBareValue := by
  unfold readBareValue
  split
  · intro other hOther
    refine .trans ?_ (extends_dropCandidate _ other hOther)
    exact (extends_opened .blockMappingStart lexer).trans (.of_eq rfl rfl rfl)
  · exact Yields.error _

/-! ## Reading one token -/

theorem passes_indicator {c : Char} (hOther : c ≠ '&') (hStart : lexer.cursor.peek 0 = some c) :
    lexer.cursor.Passes (lexer.cursor.skip 1) :=
  passes_next (by simpa [hStart] using hOther)

theorem Covers.pushIndicator (hCovers : lexer.Covers content) (hExtends : lexer.Extends other)
    {length : Nat} (hFree : lexer.cursor.Passes (lexer.cursor.skip length)) (kind : TokenKind) :
    (other.pushChars kind length).Covers content := by
  refine (hCovers.extend hExtends).pushChars ?_
  rw [hExtends.cursor]
  exact hFree

theorem Covers.readStreamEnd (hCovers : lexer.Covers content) (hRest : lexer.cursor.rest = []) :
    Yields (CoversAll content) lexer.readStreamEnd := by
  refine Yields.bind fun other hOther => Yields.ok ⟨rfl, fun position hAmpersand => ?_⟩
  have hExtends := extends_endDocument lexer other hOther
  obtain ⟨last, hLast, hCovered⟩ := hCovers.covered
  -- Nothing is left, so every position of the text is before the cursor.
  have hLength : content.length ≤ last := by
    rw [← List.drop_eq_nil_iff, ← hRest, ← hLast, skip_rest]
    rfl
  have hPosition : position < content.length := (List.getElem?_eq_some_iff.1 hAmpersand).1
  obtain ⟨token, hToken, hSpans⟩ :=
    hExtends.covered (hCovered position (by omega) hAmpersand)
  exact ⟨token, List.mem_cons_of_mem _ hToken, hSpans⟩

theorem Covers.readDirectiveToken (hCovers : lexer.Covers content) (fuel : Nat) :
    Yields (Covers content) (lexer.readDirectiveToken fuel) := by
  refine Yields.bind fun other hOther => Yields.bind fun read hRead => Yields.ok ?_
  have hOther := hCovers.extend (extends_endDocument lexer other hOther)
  have hPushed := hOther.pushTo (show TokenKind.isWritten (.directive read.1) = true from rfl)
    (advances_readDirective other.version fuel other.cursor read hRead)
  exact hPushed.extend (.of_eq rfl rfl rfl)

theorem Covers.readSeparator (hCovers : lexer.Covers content) {c : Char} (hOther : c ≠ '&')
    (hStart : lexer.cursor.startsWith c = true) :
    Yields (Covers content) (lexer.readSeparator kind) := by
  refine Yields.bind fun other hEnd => Yields.ok ?_
  exact hCovers.pushIndicator (extends_endDocument lexer other hEnd)
    (passes_of_startsWith hOther hStart) kind

theorem Covers.readFlowStart (hCovers : lexer.Covers content)
    (hFree : lexer.cursor.Passes (lexer.cursor.skip 1)) (flow : Flow) :
    Yields (Covers content) (lexer.readFlowStart flow) := by
  unfold Lexer.readFlowStart
  split
  · exact Yields.error _
  · refine Yields.bind fun other hOther => Yields.ok ?_
    have hOpened : lexer.Extends { other with flows := flow :: other.flows, keysAllowed := true } :=
      (extends_saveCandidate lexer other hOther).trans (.of_eq rfl rfl rfl)
    exact hCovers.pushIndicator hOpened hFree _

theorem Covers.readFlowEnd (hCovers : lexer.Covers content)
    (hFree : lexer.cursor.Passes (lexer.cursor.skip 1)) :
    Yields (Covers content) (lexer.readFlowEnd kind) := by
  refine Yields.bind fun other hOther => Yields.ok ?_
  exact (hCovers.pushIndicator (extends_dropCandidate lexer other hOther) hFree kind).extend
    (.of_eq rfl rfl rfl)

theorem Covers.readFlowEntry (hCovers : lexer.Covers content)
    (hFree : lexer.cursor.Passes (lexer.cursor.skip 1)) :
    Yields (Covers content) lexer.readFlowEntry := by
  refine Yields.bind fun other hOther => Yields.ok ?_
  exact (hCovers.pushIndicator (extends_dropCandidate lexer other hOther) hFree _).extend
    (.of_eq rfl rfl rfl)

theorem Covers.readBlockEntry (hCovers : lexer.Covers content)
    (hFree : lexer.cursor.Passes (lexer.cursor.skip 1)) :
    Yields (Covers content) lexer.readBlockEntry := by
  unfold Lexer.readBlockEntry
  split
  · refine Yields.bind fun other hOther => Yields.ok ?_
    have hExtends := (extends_opened .blockSequenceStart lexer).trans
      (extends_dropCandidate _ other hOther)
    exact (hCovers.pushIndicator hExtends hFree _).extend (.of_eq rfl rfl rfl)
  · exact Yields.error _

theorem Covers.readKey (hCovers : lexer.Covers content)
    (hFree : lexer.cursor.Passes (lexer.cursor.skip 1)) :
    Yields (Covers content) lexer.readKey := by
  unfold Lexer.readKey
  split
  · refine Yields.bind fun other hOther => Yields.ok ?_
    have hExtends := (extends_opened .blockMappingStart lexer).trans
      (extends_dropCandidate _ other hOther)
    exact (hCovers.pushIndicator hExtends hFree _).extend (.of_eq rfl rfl rfl)
  · exact Yields.error _

theorem Covers.readValue (hCovers : lexer.Covers content)
    (hFree : lexer.cursor.Passes (lexer.cursor.skip 1)) :
    Yields (Covers content) lexer.readValue := by
  have hLast (other : Lexer) (hExtends : lexer.Extends other) : Covers content
      { other.pushChars .value 1 with valueLine := some other.cursor.line } :=
    (hCovers.pushIndicator hExtends hFree _).extend (.of_eq rfl rfl rfl)
  unfold Lexer.readValue
  split
  · exact Yields.ok (hLast _ (extends_acceptCandidate _ lexer))
  · refine Yields.bind fun other hOther => Yields.ok ?_
    exact hLast other (extends_readBareValue lexer other hOther)

theorem Covers.readAnchorOrAlias (hCovers : lexer.Covers content) {make : String → TokenKind}
    (hKind : ∀ name, (make name).isWritten = true) :
    Yields (Covers content) (lexer.readAnchorOrAlias make) := by
  refine Yields.bind fun other hOther => Yields.bind fun read hRead => Yields.ok ?_
  have hOther := hCovers.extend (extends_saveCandidate lexer other hOther)
  have hPushed := hOther.pushTo (hKind read.1) (advances_readAnchorName other.cursor read hRead)
  exact hPushed.extend (.of_eq rfl rfl rfl)

theorem Covers.readTagToken (hCovers : lexer.Covers content) (fuel : Nat) :
    Yields (Covers content) (lexer.readTagToken fuel) := by
  refine Yields.bind fun other hOther => Yields.bind fun read hRead => Yields.ok ?_
  have hOther := hCovers.extend (extends_saveCandidate lexer other hOther)
  have hPushed := hOther.pushTo (show TokenKind.isWritten (.tag read.1 read.2.1) = true from rfl)
    (reaches_readTag other.version fuel other.cursor read hRead)
  exact hPushed.extend (.of_eq rfl rfl rfl)

theorem isWritten_scalar (style : ScalarStyle) (text : Text.Points) :
    TokenKind.isWritten (.scalar style text) = true := rfl

theorem Covers.readBlockToken (hCovers : lexer.Covers content) (style : ScalarStyle)
    (fuel : Nat) : Yields (Covers content) (lexer.readBlockToken style fuel) := by
  refine Yields.bind fun other hOther => Yields.bind fun scalar hScalar => Yields.ok ?_
  have hOther := hCovers.extend (extends_dropCandidate lexer other hOther)
  have hAfter := (reaches_next other.cursor).trans
    (reaches_readBlockScalar _ other.indent fuel other.cursor.next scalar hScalar)
  have hPushed := hOther.pushTo (isWritten_scalar style (String.ofList scalar.content)) hAfter
  exact (hPushed.extend (extends_withComments scalar.comments _)).extend (.of_eq rfl rfl rfl)

theorem Covers.readQuotedToken (hCovers : lexer.Covers content) (style : ScalarStyle)
    (fuel : Nat) : Yields (Covers content) (lexer.readQuotedToken style fuel) := by
  refine Yields.bind fun other hOther => Yields.bind fun read hRead => Yields.ok ?_
  have hOther := hCovers.extend (extends_saveCandidate lexer other hOther)
  have hAfter := (reaches_next other.cursor).trans
    (advances_readQuoted _ fuel [] other.cursor.next read hRead)
  have hPushed := hOther.pushTo (isWritten_scalar style ⟨read.1⟩) hAfter
  exact hPushed.extend (.of_eq rfl rfl rfl)

theorem Covers.pushBefore (hCovers : lexer.Covers content) (hKind : kind.isWritten = true)
    {middle after : Cursor} {stop : Mark} (hMiddle : lexer.cursor.Reaches middle)
    (hStop : stop = middle.mark) (hGap : middle.Passes after) (comments : Comments)
    (keysAllowed : Bool) :
    Covers content { (lexer.push kind lexer.cursor.mark stop).withComments comments with
      cursor := after, keysAllowed := keysAllowed } := by
  subst hStop
  have hKeeps := (extends_withComments comments
    (lexer.push kind lexer.cursor.mark middle.mark)).toKeeps
  exact (hCovers.pushTo hKind hMiddle).pass ⟨hKeeps.isDone, hKeeps.tokens⟩ hGap

theorem Covers.readPlainToken (hCovers : lexer.Covers content) (fuel : Nat) :
    Yields (Covers content) (lexer.readPlainToken fuel) := by
  refine Yields.bind fun other hOther => Yields.ok ?_
  have hOther := hCovers.extend (extends_saveCandidate lexer other hOther)
  -- The token ends before the gap that is read after it.
  obtain ⟨middle, hMiddle, hStop, hGap⟩ := exists_stop_of_readPlainParts other.version
    other.inFlow (other.indent + 1) fuel [] [] false (Passes.refl other.cursor)
  exact hOther.pushBefore (isWritten_scalar .plain _) hMiddle hStop hGap _ _

theorem Covers.readTokenAt (hCovers : lexer.Covers content) (fuel : Nat) {c : Char}
    (hStart : lexer.cursor.peek 0 = some c) :
    Yields (Covers content) (lexer.readTokenAt fuel c) := by
  have hIndicator {d : Char} (hOther : d ≠ '&') (hChar : c = d) :
      lexer.cursor.Passes (lexer.cursor.skip 1) :=
    passes_indicator (by rwa [hChar]) hStart
  unfold Lexer.readTokenAt
  refine Yields.ite (fun _ => hCovers.readDirectiveToken fuel) fun _ => ?_
  refine Yields.ite (fun hDashes => hCovers.readSeparator (by decide) hDashes.2) fun _ => ?_
  refine Yields.ite (fun hDots => hCovers.readSeparator (by decide) hDots.2) fun _ => ?_
  refine Yields.ite (fun h => hCovers.readFlowStart (hIndicator (by decide) h) _) fun _ => ?_
  refine Yields.ite (fun h => hCovers.readFlowStart (hIndicator (by decide) h) _) fun _ => ?_
  refine Yields.ite (fun h => hCovers.readFlowEnd (hIndicator (by decide) h)) fun _ => ?_
  refine Yields.ite (fun h => hCovers.readFlowEnd (hIndicator (by decide) h)) fun _ => ?_
  refine Yields.ite (fun h => hCovers.readFlowEntry (hIndicator (by decide) h)) fun _ => ?_
  refine Yields.ite (fun h => hCovers.readBlockEntry (hIndicator (by decide) h.1)) fun _ => ?_
  refine Yields.ite (fun h => hCovers.readKey (hIndicator (by decide) h.1)) fun _ => ?_
  refine Yields.ite (fun h => hCovers.readValue (hIndicator (by decide) h.1)) fun _ => ?_
  refine Yields.ite (fun _ => hCovers.readAnchorOrAlias fun _ => rfl) fun _ => ?_
  refine Yields.ite (fun _ => hCovers.readAnchorOrAlias fun _ => rfl) fun _ => ?_
  refine Yields.ite (fun _ => hCovers.readTagToken fuel) fun _ => ?_
  refine Yields.ite (fun _ => hCovers.readBlockToken .literal fuel) fun _ => ?_
  refine Yields.ite (fun _ => hCovers.readBlockToken .folded fuel) fun _ => ?_
  refine Yields.ite (fun _ => hCovers.readQuotedToken .single fuel) fun _ => ?_
  refine Yields.ite (fun _ => hCovers.readQuotedToken .double fuel) fun _ => ?_
  exact Yields.ite (fun _ => hCovers.readPlainToken fuel) fun _ => Yields.error _

/-- One step keeps the invariant or reads the end of the text. -/
theorem Covers.step (hCovers : lexer.Covers content) (fuel : Nat) :
    Yields (fun next => next.Covers content ∨ next.CoversAll content) (lexer.step fuel) := by
  refine Yields.bind fun other hOther => ?_
  have hFresh := (hCovers.skipByteOrderMark.skipGap fuel).extend
    (extends_dropStaleCandidates _ other hOther)
  have hUnwound := hFresh.extend (extends_unwind other.cursor.column other)
  dsimp only
  split
  · next hRest =>
    intro next hNext
    exact .inr (hUnwound.readStreamEnd hRest next hNext)
  · next hRest =>
    intro next hNext
    exact .inl (hUnwound.readTokenAt fuel (by rw [peek, hRest]; rfl) next hNext)

end

/-! ## The whole stream -/

/-- The tokens of a text that is read to its end, comments among them, the last one first. -/
def lexemes (size : Nat) : (fuel : Nat) → Lexer → List Token
  | 0, _ => []
  | fuel + 1, lexer =>
    match lexer.step size with
    | .error _ => []
    | .ok next => if next.isDone then next.tokens else lexemes size fuel next

/-- A text that is read to its end is read by a last step, or by a step and a shorter
reading. -/
theorem exists_step_of_readAll {size fuel : Nat} {lexer : Lexer}
    (hFault : (TokenStream.readAll size (fuel + 1) lexer).fault = none) :
    ∃ next, lexer.step size = .ok next ∧
      (next.isDone = true ∧
          (TokenStream.readAll size (fuel + 1) lexer).tokens = attachComments next.tokens [] [] ∧
          lexer.lexemes size (fuel + 1) = next.tokens ∨
        next.isDone = false ∧
          TokenStream.readAll size (fuel + 1) lexer = TokenStream.readAll size fuel next ∧
          lexer.lexemes size (fuel + 1) = next.lexemes size fuel) := by
  rw [TokenStream.readAll] at hFault ⊢
  rw [Lexer.lexemes]
  cases hNext : lexer.step size with
  | error fault =>
      rw [hNext] at hFault
      cases hFault
  | ok next =>
      refine ⟨next, rfl, ?_⟩
      cases hDone : next.isDone with
      | true => simp [hDone]
      | false => simp [hDone]

theorem tokens_readAll {size fuel : Nat} {lexer : Lexer}
    (hFault : (TokenStream.readAll size fuel lexer).fault = none) :
    (TokenStream.readAll size fuel lexer).tokens =
      attachComments (lexer.lexemes size fuel) [] [] := by
  induction fuel generalizing lexer with
  | zero => cases hFault
  | succ fuel ih =>
      obtain ⟨next, -, ⟨-, hTokens, hLexemes⟩ | ⟨-, hLater, hLexemes⟩⟩ :=
        exists_step_of_readAll hFault
      · rw [hTokens, hLexemes]
      · rw [hLater] at hFault ⊢
        rw [hLexemes]
        exact ih hFault

theorem Covers.lexemes {content : List Char} {size fuel : Nat} {lexer : Lexer}
    (hCovers : lexer.Covers content)
    (hFault : (TokenStream.readAll size fuel lexer).fault = none) {position : Nat}
    (hAmpersand : content[position]? = some '&') :
    ∃ lexeme ∈ lexer.lexemes size fuel,
      lexeme.kind.isWritten = true ∧ lexeme.Spans content position := by
  induction fuel generalizing lexer with
  | zero => cases hFault
  | succ fuel ih =>
      obtain ⟨next, hNext, hEnds⟩ := exists_step_of_readAll hFault
      rcases hCovers.step size next hNext with hGoesOn | hAll
      · obtain ⟨-, hLater, hLexemes⟩ := hEnds.resolve_left fun hLast =>
          Bool.false_ne_true (hGoesOn.notDone.symm.trans hLast.1)
        rw [hLater] at hFault
        rw [hLexemes]
        exact ih hGoesOn hFault
      · obtain ⟨-, -, hLexemes⟩ := hEnds.resolve_right fun hMore =>
          Bool.false_ne_true (hMore.1.symm.trans hAll.isDone)
        rw [hLexemes]
        exact hAll.covered position hAmpersand

end Lexer

namespace TokenStream

/-- The tokens of a text, comments among them, the last one first. -/
def lexemes (version : Version) (content : List Char) : List Token :=
  let size := content.length + 2
  if content.all isPrintable then
    Lexer.lexemes size size { cursor := .start content, version := version }
  else []

variable {version : Version} {content : List Char}

theorem tokens_ofText (hFault : (ofText version content).fault = none) :
    (ofText version content).tokens = attachComments (lexemes version content) [] [] := by
  unfold ofText lexemes at *
  dsimp only at *
  split at hFault
  · next hPrintable =>
    rw [if_pos hPrintable, if_pos hPrintable]
    exact Lexer.tokens_readAll hFault
  · cases hFault

theorem exists_token_of_lexeme (hFault : (ofText version content).fault = none) {lexeme : Token}
    (hLexeme : lexeme ∈ lexemes version content) (hKind : lexeme.kind.isComment = false) :
    ∃ token ∈ (ofText version content).tokens, token.kind = lexeme.kind := by
  have hPlace : lexeme.place ∈ (ofText version content).tokens.map Token.place := by
    rw [tokens_ofText hFault, attachComments_places, List.map_nil, List.append_nil]
    refine List.mem_map_of_mem (List.mem_filter.2 ⟨List.mem_reverse.2 hLexeme, ?_⟩)
    rw [hKind]
    rfl
  obtain ⟨token, hToken, hSame⟩ := List.mem_map.1 hPlace
  exact ⟨token, hToken, congrArg Prod.fst hSame⟩

/-- Each ampersand of a text is part of a lexeme. -/
theorem exists_lexeme_of_ampersand (hFault : (ofText version content).fault = none)
    {position : Nat} (hAmpersand : content[position]? = some '&') :
    ∃ lexeme ∈ lexemes version content,
      lexeme.kind.isWritten = true ∧ lexeme.Spans content position := by
  unfold ofText at hFault
  unfold lexemes
  dsimp only at *
  split at hFault
  · next hPrintable =>
    rw [if_pos hPrintable]
    have hStart : Lexer.Covers content { cursor := .start content, version := version } :=
      ⟨rfl, 0, rfl, by simp⟩
    exact hStart.lexemes hFault hAmpersand
  · cases hFault

end TokenStream

end SqlDialects.Yaml
