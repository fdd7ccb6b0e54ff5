import SqlDialects.Proofs.Yaml.Reach

/-!
# Where tokens stand

While tokens are read, the cursor stands at some place of the text, every anchor token
starts where the text has an ampersand and the name of the anchor, and nothing ends the
stream.  Every reader keeps this, so it holds of all tokens of a text but the last one.
-/

namespace SqlDialects.Yaml

def TokenKind.isAnchor : TokenKind → Bool
  | .anchor _ => true
  | _ => false

def TokenKind.isAlias : TokenKind → Bool
  | .aliasOf _ => true
  | _ => false

def Token.place (token : Token) : TokenKind × Mark :=
  (token.kind, token.start)

/-- The mark of a place of a text, given by the number of characters before it. -/
def markAt (content : List Char) (position : Nat) : Mark :=
  ((Cursor.start content).skip position).mark

/-- A text has an ampersand and the name of an anchor at a position. -/
structure WritesAnchor (content : List Char) (position : Nat) (name : String) : Prop where
  name_ne_nil : name.toList ≠ []
  written : '&' :: name.toList <+: content.drop position

/-- A token before the end, which stands where it is written if it is an anchor. -/
structure IsPlaced (content : List Char) (place : TokenKind × Mark) : Prop where
  kind_ne_end : place.1 ≠ .streamEnd
  anchor : ∀ name, place.1 = .anchor name →
    ∃ position, place.2 = markAt content position ∧ WritesAnchor content position name

theorem Cursor.skip_rest (count : Nat) (cursor : Cursor) :
    (cursor.skip count).rest = cursor.rest.drop count := by
  induction count generalizing cursor with
  | zero => rfl
  | succ count ih =>
      have hNext : cursor.next.rest = cursor.rest.drop 1 := by
        unfold next
        split
        · next hRest => simp [hRest]
        · next hRest => split <;> simp [hRest]
      rw [skip, ih, hNext, List.drop_drop, Nat.add_comm]

/-! ## States of reading -/

namespace Lexer

structure IsPlaced (content : List Char) (lexer : Lexer) : Prop where
  cursor : (Cursor.start content).Reaches lexer.cursor
  tokens : ∀ token ∈ lexer.tokens, Yaml.IsPlaced content token.place

def IsComplete (content : List Char) (lexer : Lexer) : Prop :=
  lexer.isDone = true ∧ ∃ last earlier, lexer.tokens = last :: earlier ∧
    last.kind = .streamEnd ∧ ∀ token ∈ earlier, Yaml.IsPlaced content token.place

/-- Two states of reading differ neither in their places nor in their tokens. -/
structure SameText (lexer other : Lexer) : Prop where
  cursor : other.cursor = lexer.cursor
  tokens : other.tokens = lexer.tokens

/-- A token that neither ends the stream nor is an anchor may stand anywhere. -/
def IsFree (kind : TokenKind) : Prop :=
  kind ≠ .streamEnd ∧ kind.isAnchor = false

section

variable {content : List Char} {lexer : Lexer} {kind : TokenKind}

theorem IsFree.isPlaced (hKind : IsFree kind) (start : Mark) :
    Yaml.IsPlaced content (kind, start) := by
  refine ⟨hKind.1, fun name hName => ?_⟩
  have hAnchor := hKind.2
  rw [show kind = .anchor name from hName] at hAnchor
  cases hAnchor

theorem IsPlaced.same {other : Lexer} (hPlaced : lexer.IsPlaced content)
    (hSame : lexer.SameText other) : other.IsPlaced content := by
  constructor
  · rw [hSame.cursor]
    exact hPlaced.cursor
  · rw [hSame.tokens]
    exact hPlaced.tokens

theorem IsPlaced.push (hPlaced : lexer.IsPlaced content) (hKind : IsFree kind)
    (start stop : Mark) : (lexer.push kind start stop).IsPlaced content := by
  refine ⟨hPlaced.cursor, fun token hToken => ?_⟩
  rcases List.mem_cons.1 hToken with rfl | hEarlier
  · exact hKind.isPlaced start
  · exact hPlaced.tokens token hEarlier

theorem IsPlaced.pushEmpty (hPlaced : lexer.IsPlaced content) (hKind : IsFree kind) :
    (lexer.pushEmpty kind).IsPlaced content :=
  hPlaced.push hKind _ _

theorem IsPlaced.pushTo (hPlaced : lexer.IsPlaced content) (hKind : IsFree kind)
    {after : Cursor} (hAfter : lexer.cursor.Reaches after) :
    (lexer.pushTo kind after).IsPlaced content :=
  ⟨hPlaced.cursor.trans hAfter, (hPlaced.push hKind _ _).tokens⟩

theorem IsPlaced.pushChars (hPlaced : lexer.IsPlaced content) (hKind : IsFree kind)
    (length : Nat) : (lexer.pushChars kind length).IsPlaced content :=
  hPlaced.pushTo hKind (Cursor.reaches_skip _ length)

theorem IsPlaced.insert (hPlaced : lexer.IsPlaced content) (hKind : IsFree kind) (before : Nat)
    (mark : Mark) : (lexer.insert kind before mark).IsPlaced content := by
  refine ⟨hPlaced.cursor, fun token hToken => ?_⟩
  rcases List.mem_append.1 hToken with hLater | hOther
  · exact hPlaced.tokens token (List.mem_of_mem_take hLater)
  · rcases List.mem_cons.1 hOther with rfl | hEarlier
    · exact hKind.isPlaced mark
    · exact hPlaced.tokens token (List.mem_of_mem_drop hEarlier)

theorem IsPlaced.withComments (hPlaced : lexer.IsPlaced content) (comments : Comments) :
    (lexer.withComments comments).IsPlaced content := by
  unfold Lexer.withComments
  split
  · exact hPlaced
  · next token tokens hTokens =>
    have hAll := hPlaced.tokens
    rw [hTokens] at hAll
    refine ⟨hPlaced.cursor, fun other hOther => ?_⟩
    rcases List.mem_cons.1 hOther with rfl | hEarlier
    · exact hAll token (by simp)
    · exact hAll other (by simp [hEarlier])

/-! ## Gaps, candidates and indentation -/

theorem IsPlaced.skipGap (hPlaced : lexer.IsPlaced content) (fuel : Nat) :
    (lexer.skipGap fuel).IsPlaced content := by
  have hComment (text : String) : IsFree (.comment text) := ⟨by simp, rfl⟩
  induction fuel generalizing lexer with
  | zero => exact hPlaced
  | succ fuel ih =>
      have hSpaces := hPlaced.cursor.trans (Cursor.reaches_skipWhile
        (fun c => c == ' ' || (lexer.inFlow && c == '\t')) lexer.cursor)
      unfold Lexer.skipGap
      dsimp only
      split
      · apply ih
        have hRead := reaches_readComment fuel (lexer.cursor.skipWhile
          fun c => c == ' ' || (lexer.inFlow && c == '\t'))
        exact ⟨hSpaces.trans hRead, (hPlaced.push (hComment _) _ _).tokens⟩
      · split
        · exact ⟨hSpaces, hPlaced.tokens⟩
        · next hBreak =>
          have hAfter := hSpaces.trans (Cursor.reaches_of_lineBreak hBreak)
          split
          · apply ih
            exact ⟨hAfter.trans (reaches_readEmptyLines _),
              (hPlaced.push (hComment _) _ _).tokens⟩
          · exact ih ⟨hAfter, hPlaced.tokens⟩

theorem IsPlaced.skipByteOrderMark (hPlaced : lexer.IsPlaced content) :
    lexer.skipByteOrderMark.IsPlaced content := by
  unfold Lexer.skipByteOrderMark
  split
  · exact ⟨hPlaced.cursor.trans (Cursor.reaches_next _), hPlaced.tokens⟩
  · exact hPlaced

theorem sameText_dropStaleCandidates (lexer : Lexer) :
    Yields lexer.SameText lexer.dropStaleCandidates := by
  unfold dropStaleCandidates
  split
  · exact Yields.error _
  · exact Yields.ok ⟨rfl, rfl⟩

theorem sameText_dropCandidate (lexer : Lexer) : Yields lexer.SameText lexer.dropCandidate := by
  unfold dropCandidate
  split
  · exact Yields.error _
  · exact Yields.ok ⟨rfl, rfl⟩

theorem sameText_saveCandidate (lexer : Lexer) : Yields lexer.SameText lexer.saveCandidate := by
  unfold saveCandidate
  split
  · refine Yields.bind fun other hOther => Yields.ok ?_
    have hSame := sameText_dropCandidate lexer other hOther
    exact ⟨hSame.cursor, hSame.tokens⟩
  · exact Yields.ok ⟨rfl, rfl⟩

theorem IsPlaced.unwindFrom (hPlaced : lexer.IsPlaced content) (column : Int)
    (outer : List Int) : (lexer.unwindFrom column outer).IsPlaced content := by
  have hEnd : IsFree .blockEnd := ⟨by simp, rfl⟩
  induction outer generalizing lexer with
  | nil =>
      unfold Lexer.unwindFrom
      split
      · exact hPlaced
      · exact ⟨hPlaced.cursor, (hPlaced.pushEmpty hEnd).tokens⟩
  | cons indent outer ih =>
      unfold Lexer.unwindFrom
      split
      · exact hPlaced
      · exact ih ⟨hPlaced.cursor, (hPlaced.pushEmpty hEnd).tokens⟩

theorem IsPlaced.unwind (hPlaced : lexer.IsPlaced content) (column : Int) :
    (lexer.unwind column).IsPlaced content := by
  unfold Lexer.unwind
  split
  · exact hPlaced
  · exact hPlaced.unwindFrom column _

theorem sameText_indentTo (lexer : Lexer) (column : Nat) :
    lexer.SameText (lexer.indentTo column).2 := by
  unfold indentTo
  split <;> exact ⟨rfl, rfl⟩

theorem IsPlaced.openBlock (hPlaced : lexer.IsPlaced content) (hKind : IsFree kind) :
    (lexer.openBlock kind).IsPlaced content := by
  have hIndented := hPlaced.same (sameText_indentTo lexer lexer.cursor.column)
  unfold Lexer.openBlock
  dsimp only
  split
  · exact hIndented.pushEmpty hKind
  · exact hIndented

/-! ## Reading one token -/

theorem IsPlaced.endDocument (hPlaced : lexer.IsPlaced content) :
    Yields (IsPlaced content) lexer.endDocument := by
  refine Yields.bind fun other hOther => Yields.ok ?_
  have hOther := (hPlaced.unwind (-1)).same (sameText_dropCandidate _ other hOther)
  exact ⟨hOther.cursor, hOther.tokens⟩

theorem IsPlaced.readStreamEnd (hPlaced : lexer.IsPlaced content) :
    Yields (IsComplete content) lexer.readStreamEnd := by
  refine Yields.bind fun other hOther => Yields.ok ?_
  have hOther := hPlaced.endDocument other hOther
  exact ⟨rfl, _, other.tokens, rfl, rfl, hOther.tokens⟩

theorem IsPlaced.readDirectiveToken (hPlaced : lexer.IsPlaced content) (fuel : Nat) :
    Yields (IsPlaced content) (lexer.readDirectiveToken fuel) := by
  refine Yields.bind fun other hOther => Yields.bind fun read hRead => Yields.ok ?_
  have hOther := hPlaced.endDocument other hOther
  have hPushed := hOther.pushTo (show IsFree (.directive read.1) from ⟨by simp, rfl⟩)
    (advances_readDirective other.version fuel other.cursor read hRead)
  exact ⟨hPushed.cursor, hPushed.tokens⟩

theorem IsPlaced.readSeparator (hPlaced : lexer.IsPlaced content) (hKind : IsFree kind) :
    Yields (IsPlaced content) (lexer.readSeparator kind) := by
  refine Yields.bind fun other hOther => Yields.ok ?_
  exact (hPlaced.endDocument other hOther).pushChars hKind 3

theorem IsPlaced.readFlowStart (hPlaced : lexer.IsPlaced content) (flow : Flow) :
    Yields (IsPlaced content) (lexer.readFlowStart flow) := by
  have hKind : IsFree (startKind flow) := by
    cases flow <;> exact ⟨by simp [startKind], rfl⟩
  unfold Lexer.readFlowStart
  split
  · exact Yields.error _
  · refine Yields.bind fun other hOther => Yields.ok ?_
    have hOther := hPlaced.same (sameText_saveCandidate lexer other hOther)
    have hOpened : IsPlaced content { other with
      flows := flow :: other.flows, keysAllowed := true } := ⟨hOther.cursor, hOther.tokens⟩
    exact hOpened.pushChars hKind 1

theorem IsPlaced.readFlowEnd (hPlaced : lexer.IsPlaced content) (hKind : IsFree kind) :
    Yields (IsPlaced content) (lexer.readFlowEnd kind) := by
  refine Yields.bind fun other hOther => Yields.ok ?_
  have hOther := hPlaced.same (sameText_dropCandidate lexer other hOther)
  have hPushed := hOther.pushChars hKind 1
  exact ⟨hPushed.cursor, hPushed.tokens⟩

theorem IsPlaced.readFlowEntry (hPlaced : lexer.IsPlaced content) :
    Yields (IsPlaced content) lexer.readFlowEntry := by
  refine Yields.bind fun other hOther => Yields.ok ?_
  have hOther := hPlaced.same (sameText_dropCandidate lexer other hOther)
  have hPushed := hOther.pushChars (show IsFree .flowEntry from ⟨by simp, rfl⟩) 1
  exact ⟨hPushed.cursor, hPushed.tokens⟩

private theorem isPlaced_opened (hPlaced : lexer.IsPlaced content) (hKind : IsFree kind) :
    (if lexer.inFlow then lexer else lexer.openBlock kind).IsPlaced content := by
  split
  · exact hPlaced
  · exact hPlaced.openBlock hKind

theorem IsPlaced.readBlockEntry (hPlaced : lexer.IsPlaced content) :
    Yields (IsPlaced content) lexer.readBlockEntry := by
  have hOpened := isPlaced_opened hPlaced
    (show IsFree .blockSequenceStart from ⟨by simp, rfl⟩)
  unfold Lexer.readBlockEntry
  split
  · refine Yields.bind fun other hOther => Yields.ok ?_
    have hOther := hOpened.same (sameText_dropCandidate _ other hOther)
    have hPushed := hOther.pushChars (show IsFree .blockEntry from ⟨by simp, rfl⟩) 1
    exact ⟨hPushed.cursor, hPushed.tokens⟩
  · exact Yields.error _

theorem IsPlaced.readKey (hPlaced : lexer.IsPlaced content) :
    Yields (IsPlaced content) lexer.readKey := by
  have hOpened := isPlaced_opened hPlaced
    (show IsFree .blockMappingStart from ⟨by simp, rfl⟩)
  unfold Lexer.readKey
  split
  · refine Yields.bind fun other hOther => Yields.ok ?_
    have hOther := hOpened.same (sameText_dropCandidate _ other hOther)
    have hPushed := hOther.pushChars (show IsFree .key from ⟨by simp, rfl⟩) 1
    exact ⟨hPushed.cursor, hPushed.tokens⟩
  · exact Yields.error _

theorem IsPlaced.acceptCandidate (hPlaced : lexer.IsPlaced content)
    (candidate : KeyCandidate) : (lexer.acceptCandidate candidate).IsPlaced content := by
  let waiting := { lexer with
    candidates := lexer.candidates.filter fun other => other.level != candidate.level }
  let accepted := waiting.insert .key candidate.before candidate.mark
  let indented := if accepted.inFlow then (false, accepted)
    else accepted.indentTo candidate.mark.column
  have hWaiting : waiting.IsPlaced content := ⟨hPlaced.cursor, hPlaced.tokens⟩
  have hAccepted : accepted.IsPlaced content :=
    hWaiting.insert (show IsFree .key from ⟨by simp, rfl⟩) _ _
  have hIndented : indented.2.IsPlaced content := by
    unfold indented
    split
    · exact hAccepted
    · exact hAccepted.same (sameText_indentTo accepted _)
  have hOpened : (if indented.1 then
      indented.2.insert .blockMappingStart candidate.before candidate.mark
      else indented.2).IsPlaced content := by
    split
    · exact hIndented.insert (show IsFree .blockMappingStart from ⟨by simp, rfl⟩) _ _
    · exact hIndented
  exact ⟨hOpened.cursor, hOpened.tokens⟩

theorem IsPlaced.readBareValue (hPlaced : lexer.IsPlaced content) :
    Yields (IsPlaced content) lexer.readBareValue := by
  have hOpened := isPlaced_opened hPlaced
    (show IsFree .blockMappingStart from ⟨by simp, rfl⟩)
  unfold Lexer.readBareValue
  split
  · intro other hOther
    have hSame := sameText_dropCandidate _ other hOther
    exact hOpened.same ⟨hSame.cursor, hSame.tokens⟩
  · exact Yields.error _

theorem IsPlaced.readValue (hPlaced : lexer.IsPlaced content) :
    Yields (IsPlaced content) lexer.readValue := by
  have hLast (other : Lexer) (hOther : other.IsPlaced content) : IsPlaced content
      { other.pushChars .value 1 with valueLine := some other.cursor.line } := by
    have hPushed := hOther.pushChars (show IsFree .value from ⟨by simp, rfl⟩) 1
    exact ⟨hPushed.cursor, hPushed.tokens⟩
  unfold Lexer.readValue
  split
  · exact Yields.ok (hLast _ (hPlaced.acceptCandidate _))
  · refine Yields.bind fun other hOther => Yields.ok ?_
    exact hLast other (hPlaced.readBareValue other hOther)

theorem takeUntilFrom_prefix (stops : Char → Option Char → Bool) (rest read : List Char)
    (cursor : Cursor) : (Cursor.takeUntilFrom stops rest read cursor).1 <+:
      read.reverse ++ rest := by
  induction rest generalizing read cursor with
  | nil => simp [Cursor.takeUntilFrom]
  | cons c rest ih =>
      unfold Cursor.takeUntilFrom
      split
      · exact List.prefix_append _ _
      · have hTaken := ih (c :: read) cursor.next
        rwa [List.reverse_cons, List.append_assoc] at hTaken

theorem readAnchorName_prefix (cursor : Cursor) :
    Yields (fun read => read.1.toList ≠ [] ∧ read.1.toList <+: cursor.rest.drop 1)
      (readAnchorName cursor) := by
  have hTaken : (cursor.next.takeWhile isAnchorChar).1 <+: cursor.next.rest :=
    takeUntilFrom_prefix (fun c _ => !isAnchorChar c) cursor.next.rest [] cursor.next
  have hNext : cursor.next.rest = cursor.rest.drop 1 := Cursor.skip_rest 1 cursor
  unfold readAnchorName
  dsimp only
  split
  · exact Yields.error _
  · next hName =>
    rw [Bool.or_eq_true, not_or, Bool.not_eq_true, List.isEmpty_eq_false_iff] at hName
    refine Yields.ok ⟨by simpa using hName.1, ?_⟩
    rw [← hNext, String.toList_ofList]
    exact hTaken

/-- The one reader that makes anchors starts at an ampersand. -/
theorem IsPlaced.readAnchor (hPlaced : lexer.IsPlaced content)
    (hStart : lexer.cursor.rest.head? = some '&') :
    Yields (IsPlaced content) (lexer.readAnchorOrAlias .anchor) := by
  refine Yields.bind fun other hOther => Yields.bind fun read hRead => Yields.ok ?_
  have hSame := sameText_saveCandidate lexer other hOther
  have hOther := hPlaced.same hSame
  have hAfter := advances_readAnchorName other.cursor read hRead
  refine ⟨hOther.cursor.trans hAfter, fun token hToken => ?_⟩
  rcases List.mem_cons.1 hToken with rfl | hEarlier
  · refine ⟨by simp [Token.place], fun name hName => ?_⟩
    cases hName
    obtain ⟨position, hPosition⟩ := hPlaced.cursor
    obtain ⟨hNonempty, hPrefix⟩ := readAnchorName_prefix other.cursor read hRead
    obtain ⟨rest, hRest⟩ := List.head?_eq_some_iff.1 hStart
    refine ⟨position, ?_, hNonempty, ?_⟩
    · rw [markAt, hPosition]
      exact congrArg Cursor.mark hSame.cursor
    · have hContent := Cursor.skip_rest position (Cursor.start content)
      rw [hPosition, hRest] at hContent
      rw [hSame.cursor, hRest] at hPrefix
      rw [show content.drop position = '&' :: rest from hContent.symm]
      exact (List.prefix_cons_inj '&').2 hPrefix
  · exact hOther.tokens token hEarlier

theorem IsPlaced.readAlias (hPlaced : lexer.IsPlaced content) :
    Yields (IsPlaced content) (lexer.readAnchorOrAlias .aliasOf) := by
  refine Yields.bind fun other hOther => Yields.bind fun read hRead => Yields.ok ?_
  have hOther := hPlaced.same (sameText_saveCandidate lexer other hOther)
  have hPushed := hOther.pushTo (show IsFree (.aliasOf read.1) from ⟨by simp, rfl⟩)
    (advances_readAnchorName other.cursor read hRead)
  exact ⟨hPushed.cursor, hPushed.tokens⟩

theorem IsPlaced.readTagToken (hPlaced : lexer.IsPlaced content) (fuel : Nat) :
    Yields (IsPlaced content) (lexer.readTagToken fuel) := by
  refine Yields.bind fun other hOther => Yields.bind fun read hRead => Yields.ok ?_
  have hOther := hPlaced.same (sameText_saveCandidate lexer other hOther)
  have hPushed := hOther.pushTo (show IsFree (.tag read.1 read.2.1) from ⟨by simp, rfl⟩)
    (reaches_readTag other.version fuel other.cursor read hRead)
  exact ⟨hPushed.cursor, hPushed.tokens⟩

theorem isFree_scalar (style : ScalarStyle) (text : Text.Points) : IsFree (.scalar style text) :=
  ⟨by simp, rfl⟩

theorem IsPlaced.readBlockToken (hPlaced : lexer.IsPlaced content) (style : ScalarStyle)
    (fuel : Nat) : Yields (IsPlaced content) (lexer.readBlockToken style fuel) := by
  refine Yields.bind fun other hOther => Yields.bind fun scalar hScalar => Yields.ok ?_
  have hOther := hPlaced.same (sameText_dropCandidate lexer other hOther)
  have hAfter := (Cursor.reaches_next other.cursor).trans
    (reaches_readBlockScalar _ other.indent fuel other.cursor.next scalar hScalar)
  have hPushed := (hOther.pushTo (isFree_scalar style (String.ofList scalar.content))
    hAfter).withComments scalar.comments
  exact ⟨hPushed.cursor, hPushed.tokens⟩

theorem IsPlaced.readQuotedToken (hPlaced : lexer.IsPlaced content) (style : ScalarStyle)
    (fuel : Nat) : Yields (IsPlaced content) (lexer.readQuotedToken style fuel) := by
  refine Yields.bind fun other hOther => Yields.bind fun read hRead => Yields.ok ?_
  have hOther := hPlaced.same (sameText_saveCandidate lexer other hOther)
  have hAfter := (Cursor.reaches_next other.cursor).trans
    (advances_readQuoted _ fuel [] other.cursor.next read hRead)
  have hPushed := hOther.pushTo (isFree_scalar style ⟨read.1⟩) hAfter
  exact ⟨hPushed.cursor, hPushed.tokens⟩

theorem IsPlaced.readPlainToken (hPlaced : lexer.IsPlaced content) (fuel : Nat) :
    Yields (IsPlaced content) (lexer.readPlainToken fuel) := by
  refine Yields.bind fun other hOther => Yields.ok ?_
  have hOther := hPlaced.same (sameText_saveCandidate lexer other hOther)
  have hAfter := reaches_readPlainParts other.version other.inFlow (other.indent + 1) fuel [] []
    other.cursor.mark false other.cursor
  exact ⟨hOther.cursor.trans hAfter,
    ((hOther.push (isFree_scalar .plain _) _ _).withComments _).tokens⟩

theorem IsPlaced.readTokenAt (hPlaced : lexer.IsPlaced content) (fuel : Nat) {c : Char}
    (hStart : lexer.cursor.rest.head? = some c) :
    Yields (IsPlaced content) (lexer.readTokenAt fuel c) := by
  unfold Lexer.readTokenAt
  refine Yields.ite (fun _ => hPlaced.readDirectiveToken fuel) fun _ => ?_
  refine Yields.ite (fun _ => hPlaced.readSeparator ⟨by simp, rfl⟩) fun _ => ?_
  refine Yields.ite (fun _ => hPlaced.readSeparator ⟨by simp, rfl⟩) fun _ => ?_
  refine Yields.ite (fun _ => hPlaced.readFlowStart .sequence) fun _ => ?_
  refine Yields.ite (fun _ => hPlaced.readFlowStart .mapping) fun _ => ?_
  refine Yields.ite (fun _ => hPlaced.readFlowEnd ⟨by simp, rfl⟩) fun _ => ?_
  refine Yields.ite (fun _ => hPlaced.readFlowEnd ⟨by simp, rfl⟩) fun _ => ?_
  refine Yields.ite (fun _ => hPlaced.readFlowEntry) fun _ => ?_
  refine Yields.ite (fun _ => hPlaced.readBlockEntry) fun _ => ?_
  refine Yields.ite (fun _ => hPlaced.readKey) fun _ => ?_
  refine Yields.ite (fun _ => hPlaced.readValue) fun _ => ?_
  refine Yields.ite (fun _ => hPlaced.readAlias) fun _ => ?_
  -- Only here an anchor is made.
  refine Yields.ite (fun hAmpersand => ?_) fun _ => ?_
  · rw [hAmpersand] at hStart
    exact hPlaced.readAnchor hStart
  refine Yields.ite (fun _ => hPlaced.readTagToken fuel) fun _ => ?_
  refine Yields.ite (fun _ => hPlaced.readBlockToken .literal fuel) fun _ => ?_
  refine Yields.ite (fun _ => hPlaced.readBlockToken .folded fuel) fun _ => ?_
  refine Yields.ite (fun _ => hPlaced.readQuotedToken .single fuel) fun _ => ?_
  refine Yields.ite (fun _ => hPlaced.readQuotedToken .double fuel) fun _ => ?_
  exact Yields.ite (fun _ => hPlaced.readPlainToken fuel) fun _ => Yields.error _

/-- One step keeps the invariant or ends the stream. -/
theorem IsPlaced.step (hPlaced : lexer.IsPlaced content) (fuel : Nat) :
    Yields (fun next => next.IsPlaced content ∨ next.IsComplete content) (lexer.step fuel) := by
  refine Yields.bind fun other hOther => ?_
  have hFresh := (hPlaced.skipByteOrderMark.skipGap fuel).same
    (sameText_dropStaleCandidates _ other hOther)
  have hUnwound := hFresh.unwind other.cursor.column
  dsimp only
  split
  · intro next hNext
    exact Or.inr (hUnwound.readStreamEnd next hNext)
  · next hRest =>
    intro next hNext
    exact Or.inl (hUnwound.readTokenAt fuel (by rw [hRest]; rfl) next hNext)

end

end Lexer

/-! ## The whole stream -/

def TokenKind.isComment : TokenKind → Bool
  | .comment _ => true
  | _ => false

@[simp] theorem commentBefore_places (comments : List Comment) (tokens : List Token) :
    (commentBefore comments tokens).map Token.place = tokens.map Token.place := by
  cases tokens <;> rfl

@[simp] theorem Token.keep_place (comments : List Comment) (token : Token) :
    (token.keep comments).place = token.place := by
  unfold Token.keep
  split <;> rfl

private theorem isComment_eq_false {token : Token}
    (hKind : ∀ content start stop comments, token = ⟨.comment content, start, stop, comments⟩ →
      False) : token.kind.isComment = false := by
  obtain ⟨kind, start, stop, comments⟩ := token
  cases kind <;> first | rfl | exact (hKind _ _ _ _ rfl).elim

theorem attachComments_places (tokens : List Token) (waiting : List Comment)
    (made : List Token) :
    (attachComments tokens waiting made).map Token.place =
      (tokens.reverse.filter fun token => !token.kind.isComment).map Token.place ++
        made.map Token.place := by
  fun_induction attachComments tokens waiting made with
  | case1 waiting made => simp
  | case2 waiting made content start stop comments earlier ih =>
      simp [ih, TokenKind.isComment]
  | case3 token earlier waiting made hKind hKeeps ih =>
      simp [ih, isComment_eq_false hKind]
  | case4 token earlier waiting made hKind hKeeps ih =>
      simp [ih, isComment_eq_false hKind]

/-- Every token is placed but a last one that ends the stream, which a stream with a
fault does not have. -/
def TokenStream.IsPlaced (content : List Char) (stream : TokenStream) : Prop :=
  ∃ before last, stream.tokens.map Token.place = before ++ last ∧
    (∀ place ∈ before, Yaml.IsPlaced content place) ∧
      (last = [] ∨ stream.fault = none ∧ ∃ mark, last = [(.streamEnd, mark)])

section

variable {content : List Char}

theorem isPlaced_attachComments {tokens : List Token}
    (hTokens : ∀ token ∈ tokens, IsPlaced content token.place) :
    ∀ place ∈ (attachComments tokens [] []).map Token.place, IsPlaced content place := by
  intro place hPlace
  simp only [attachComments_places, List.map_nil, List.append_nil, List.mem_map, List.mem_filter,
    List.mem_reverse] at hPlace
  obtain ⟨token, ⟨hToken, -⟩, rfl⟩ := hPlace
  exact hTokens token hToken

theorem isPlaced_of_fault {tokens : List Token}
    (hTokens : ∀ token ∈ tokens, IsPlaced content token.place) (fault : Option Fault)
    (version : Version) :
    (TokenStream.mk (attachComments tokens [] []) fault version).IsPlaced content :=
  ⟨_, [], (List.append_nil _).symm, isPlaced_attachComments hTokens, Or.inl rfl⟩

theorem Lexer.IsComplete.isPlaced {lexer : Lexer} (hComplete : lexer.IsComplete content)
    (version : Version) :
    (TokenStream.mk (attachComments lexer.tokens [] []) none version).IsPlaced content := by
  obtain ⟨-, last, earlier, hTokens, hLast, hEarlier⟩ := hComplete
  have hBefore := isPlaced_attachComments hEarlier
  refine ⟨_, [last.place], ?_, hBefore, Or.inr ⟨rfl, last.start, by rw [Token.place, hLast]⟩⟩
  have hKept : last.kind.isComment = false := by rw [hLast]; rfl
  simp [attachComments_places, hTokens, hKept]

theorem TokenStream.isPlaced_readAll (size fuel : Nat) {lexer : Lexer}
    (hPlaced : lexer.IsPlaced content) : (readAll size fuel lexer).IsPlaced content := by
  have hSettled : ∀ token ∈ lexer.settledTokens, Yaml.IsPlaced content token.place :=
    fun token hToken => hPlaced.tokens token (List.mem_of_mem_drop hToken)
  -- A step either keeps the invariant or ends the stream, and then the loop stops.
  induction fuel generalizing lexer with
  | zero => exact isPlaced_of_fault hSettled _ _
  | succ fuel ih =>
      have hStep := hPlaced.step size
      unfold readAll
      split
      · exact isPlaced_of_fault hSettled _ _
      · next next hNext =>
        rcases hStep next hNext with hNextPlaced | hComplete
        · split
          · exact isPlaced_of_fault hNextPlaced.tokens _ _
          · exact ih hNextPlaced fun token hToken =>
              hNextPlaced.tokens token (List.mem_of_mem_drop hToken)
        · rw [if_pos hComplete.1]
          exact hComplete.isPlaced _

theorem TokenStream.isPlaced_ofText (version : Version) (content : List Char) :
    (TokenStream.ofText version content).IsPlaced content := by
  unfold TokenStream.ofText
  dsimp only
  split
  · apply isPlaced_readAll
    exact ⟨Cursor.Reaches.refl _, by simp⟩
  · exact ⟨[], [], rfl, by simp, Or.inl rfl⟩

end

end SqlDialects.Yaml
