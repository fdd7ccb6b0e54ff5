import SqlDialects.Yaml.Token.Stream

/-!
# How far readers come

A reader moves its cursor forward over the same document and never elsewhere.  So the
cursor of any state of reading stands where some number of characters of the text have
been read.
-/

namespace SqlDialects.Yaml

open Text (CodePoint)

/-- Whatever a step gives has a property. -/
def Yields {ε α : Type} (property : α → Prop) (result : Except ε α) : Prop :=
  ∀ value, result = .ok value → property value

section

variable {ε α β : Type} {property : α → Prop}

theorem Yields.error (fault : ε) : Yields property (.error fault) := by
  intro value hValue
  cases hValue

theorem Yields.ok {value : α} (hValue : property value) :
    Yields property (.ok value : Except ε α) := by
  intro other hOther
  cases hOther
  exact hValue

theorem Yields.bind {result : Except ε α} {next : α → Except ε β}
    {property : β → Prop} (hNext : ∀ value, result = .ok value → Yields property (next value)) :
    Yields property (result >>= next) := by
  cases result with
  | error fault => exact Yields.error fault
  | ok value => exact hNext value rfl

theorem Yields.ite {condition : Prop} [Decidable condition] {first second : Except ε α}
    (hFirst : condition → Yields property first) (hSecond : ¬condition → Yields property second) :
    Yields property (if condition then first else second) := by
  split
  · next hHolds => exact hFirst hHolds
  · next hFails => exact hSecond hFails

theorem Yields.map {result : Except ε α} {change : α → β} {property : β → Prop}
    (hResult : Yields (fun value => property (change value)) result) :
    Yields property (result.map change) := by
  cases result with
  | error fault => exact Yields.error fault
  | ok value => exact Yields.ok (hResult value rfl)

end

namespace Cursor

/-- The second cursor stands where the first one comes by reading on. -/
def Reaches (cursor after : Cursor) : Prop :=
  ∃ count, cursor.skip count = after

section

variable {cursor : Cursor}

theorem Reaches.refl (cursor : Cursor) : cursor.Reaches cursor :=
  ⟨0, rfl⟩

theorem skip_add (first second : Nat) (cursor : Cursor) :
    cursor.skip (first + second) = (cursor.skip first).skip second := by
  induction first generalizing cursor with
  | zero => simp [skip]
  | succ first ih => rw [Nat.succ_add, skip, skip, ih]

theorem Reaches.trans {middle after : Cursor} (hFirst : cursor.Reaches middle)
    (hSecond : middle.Reaches after) : cursor.Reaches after := by
  obtain ⟨first, rfl⟩ := hFirst
  obtain ⟨second, rfl⟩ := hSecond
  exact ⟨first + second, skip_add first second cursor⟩

theorem reaches_skip (cursor : Cursor) (count : Nat) : cursor.Reaches (cursor.skip count) :=
  ⟨count, rfl⟩

theorem reaches_next (cursor : Cursor) : cursor.Reaches cursor.next :=
  ⟨1, rfl⟩

theorem reaches_takeUntilFrom (stops : Char → Option Char → Bool) (rest read : List Char)
    (cursor : Cursor) : cursor.Reaches (takeUntilFrom stops rest read cursor).2 := by
  induction rest generalizing read cursor with
  | nil => exact Reaches.refl cursor
  | cons c rest ih =>
      unfold takeUntilFrom
      split
      · exact Reaches.refl cursor
      · exact (reaches_next cursor).trans (ih (c :: read) cursor.next)

theorem reaches_takeUntil (stops : Char → Option Char → Bool) (cursor : Cursor) :
    cursor.Reaches (cursor.takeUntil stops).2 :=
  reaches_takeUntilFrom stops cursor.rest [] cursor

theorem reaches_takeWhile (taken : Char → Bool) (cursor : Cursor) :
    cursor.Reaches (cursor.takeWhile taken).2 :=
  reaches_takeUntil _ cursor

theorem reaches_skipWhile (skipped : Char → Bool) (cursor : Cursor) :
    cursor.Reaches (cursor.skipWhile skipped) :=
  reaches_takeWhile skipped cursor

theorem reaches_of_lineBreak {c : Char} {after : Cursor}
    (hBreak : cursor.lineBreak? = some (c, after)) : cursor.Reaches after := by
  unfold lineBreak? at hBreak
  split at hBreak
  · cases hBreak
    exact reaches_skip cursor 2
  · split at hBreak
    · cases hBreak
      exact reaches_next cursor
    · split at hBreak
      · cases hBreak
        exact reaches_next cursor
      · cases hBreak
  · cases hBreak

theorem reaches_skipLineBreak (cursor : Cursor) : cursor.Reaches cursor.skipLineBreak := by
  unfold skipLineBreak
  split
  · next hBreak => exact reaches_of_lineBreak hBreak
  · exact Reaches.refl cursor

end

end Cursor

open Cursor

/-! ## Comments -/

theorem reaches_readBreaks (fuel : Nat) (read : List Char) (cursor : Cursor) :
    cursor.Reaches (readBreaks fuel read cursor).2 := by
  fun_induction readBreaks fuel read cursor with
  | case1 read cursor => exact Reaches.refl cursor
  | case2 fuel read cursor c after hBreak ih => exact (reaches_of_lineBreak hBreak).trans ih
  | case3 fuel read cursor hBreak => exact Reaches.refl cursor

theorem reaches_readComment (fuel : Nat) (cursor : Cursor) :
    cursor.Reaches (readComment fuel cursor).2 := by
  have hLine := reaches_takeWhile (fun c => !isLineEnd (some c)) cursor
  unfold readComment
  dsimp only
  split
  · exact hLine
  · exact hLine.trans ((reaches_next _).trans (reaches_readBreaks fuel [] _))

theorem reaches_readEmptyLines (cursor : Cursor) : cursor.Reaches (readEmptyLines cursor).2 :=
  reaches_takeWhile _ cursor

/-! ## Names, tags and directives -/

/-- A result of reading that may fail: whatever is read, the cursor moves on. -/
def Advances {α : Type} (cursor : Cursor) (result : Except Fault (α × Cursor)) : Prop :=
  Yields (fun read => cursor.Reaches read.2) result

theorem advances_readAnchorName (cursor : Cursor) : Advances cursor (readAnchorName cursor) := by
  unfold readAnchorName
  dsimp only
  split
  · exact Yields.error _
  · exact Yields.ok ((reaches_next cursor).trans (reaches_takeWhile isAnchorChar cursor.next))

theorem advances_readTagHandle (cursor : Cursor) : Advances cursor (readTagHandle cursor) := by
  have hWord := (reaches_next cursor).trans (reaches_takeWhile isWordChar cursor.next)
  unfold readTagHandle
  dsimp only
  split
  · exact Yields.error _
  · split
    · exact Yields.ok (reaches_next cursor)
    · split
      · exact Yields.ok (hWord.trans (reaches_next _))
      · exact Yields.error _

theorem Advances.after {α : Type} {cursor middle : Cursor} {result : Except Fault (α × Cursor)}
    (hResult : Advances middle result) (hMiddle : cursor.Reaches middle) :
    Advances cursor result := by
  intro read hRead
  exact hMiddle.trans (hResult read hRead)

theorem advances_readEscapedBytes (fuel : Nat) (read : List UInt8) (cursor : Cursor) :
    Advances cursor (readEscapedBytes fuel read cursor) := by
  fun_induction readEscapedBytes fuel read cursor with
  | case1 read cursor => exact Yields.ok (Reaches.refl cursor)
  | case2 fuel read cursor high low rest hRest high' low' hHigh hLow ih =>
      exact ih.after (reaches_skip cursor 3)
  | case3 => exact Yields.error _
  | case4 => exact Yields.error _
  | case5 => exact Yields.ok (Reaches.refl _)

theorem advances_readTagText (version : Version) (fuel : Nat) (read : List Char)
    (cursor : Cursor) : Advances cursor (readTagText version fuel read cursor) := by
  induction fuel generalizing read cursor with
  | zero => exact Yields.ok (Reaches.refl cursor)
  | succ fuel ih =>
      have hPart := reaches_takeWhile (isTagChar version) cursor
      unfold readTagText
      dsimp only
      split
      · refine Yields.bind fun ⟨bytes, after⟩ hBytes => ?_
        have hAfter := hPart.trans (advances_readEscapedBytes fuel [] _ _ hBytes)
        dsimp only
        split
        · exact (ih _ after).after hAfter
        · exact Yields.error _
      · split
        · exact Yields.error _
        · exact Yields.ok hPart

theorem reaches_readTag (version : Version) (fuel : Nat) (cursor : Cursor) :
    Yields (fun read => cursor.Reaches read.2.2) (readTag version fuel cursor) := by
  have hShort : cursor.Reaches (if cursor.peek 1 = some '!' then ("!!", cursor.next)
      else ("!", cursor)).2 := by
    split
    · exact reaches_next cursor
    · exact Reaches.refl cursor
  have hLast (handle : Option String) (suffix : String) (after : Cursor)
      (hAfter : cursor.Reaches after) :
      Yields (fun read : Option String × String × Cursor => cursor.Reaches read.2.2)
        (if isSpaceBreakOrEnd (after.peek 0) then pure (handle, suffix, after)
          else .error Fault.malformed) := by
    split
    · exact Yields.ok hAfter
    · exact Yields.error _
  unfold readTag
  revert hShort
  generalize (if cursor.peek 1 = some '!' then ("!!", cursor.next) else ("!", cursor)) = start
  obtain ⟨short, middle⟩ := start
  intro hMiddle
  have hNext := hMiddle.trans (reaches_next middle)
  have hText {start : Cursor} {read : String × Cursor} (hStart : cursor.Reaches start)
      (hRead : readTagText version fuel [] start = .ok read) : cursor.Reaches read.2 :=
    hStart.trans (advances_readTagText version fuel [] start read hRead)
  dsimp only
  split
  · refine Yields.bind fun read hRead => ?_
    have hAfter := hText (hMiddle.trans (reaches_skip middle 2)) hRead
    split
    · exact hLast none _ _ (hAfter.trans (reaches_next _))
    · exact Yields.error _
  · split
    · exact hLast none short _ hNext
    · split
      · refine Yields.bind fun named hNamed => Yields.bind fun read hRead => ?_
        have hHandle := hMiddle.trans (advances_readTagHandle middle named hNamed)
        exact hLast _ _ _ (hText hHandle hRead)
      · refine Yields.bind fun named hNamed => Yields.bind fun read hRead => ?_
        cases hNamed
        exact hLast _ _ _ (hText hNext hRead)

theorem advances_readVersionNumber (cursor : Cursor) :
    Advances cursor (readVersionNumber cursor) := by
  unfold readVersionNumber
  dsimp only
  split
  · exact Yields.ok (reaches_takeWhile Char.isDigit cursor)
  · exact Yields.error _

theorem advances_readVersion (cursor : Cursor) : Advances cursor (readVersion cursor) := by
  unfold readVersion
  refine Yields.bind fun ⟨major, middle⟩ hMajor => ?_
  have hMiddle := advances_readVersionNumber cursor _ hMajor
  dsimp only
  split
  · exact Yields.error _
  · refine Yields.bind fun ⟨minor, after⟩ hMinor => ?_
    have hAfter := advances_readVersionNumber middle.next _ hMinor
    dsimp only
    split
    · exact Yields.ok (hMiddle.trans ((reaches_next middle).trans hAfter))
    · exact Yields.error _

theorem reaches_skipSpaces (cursor : Cursor) : cursor.Reaches (skipSpaces cursor) :=
  reaches_skipWhile _ cursor

theorem reaches_skipIgnoredLine (cursor : Cursor) :
    Yields cursor.Reaches (skipIgnoredLine cursor) := by
  have hSpaces := reaches_skipSpaces cursor
  have hComment := hSpaces.trans
    (reaches_skipWhile (fun c => !isLineEnd (some c)) (skipSpaces cursor))
  unfold skipIgnoredLine
  dsimp only
  split
  · split
    · exact Yields.ok (hComment.trans (reaches_skipLineBreak _))
    · exact Yields.error _
  · split
    · exact Yields.ok (hSpaces.trans (reaches_skipLineBreak _))
    · exact Yields.error _

theorem advances_readDirective (version : Version) (fuel : Nat) (cursor : Cursor) :
    Advances cursor (readDirective version fuel cursor) := by
  have hName := (reaches_next cursor).trans (reaches_takeWhile isDirectiveChar cursor.next)
  have hLast (directive : Directive) (after : Cursor) (hAfter : cursor.Reaches after) :
      Advances cursor (do return (directive, ← skipIgnoredLine after)) := by
    refine Yields.bind fun last hSkip => Yields.ok ?_
    exact hAfter.trans (reaches_skipIgnoredLine after last hSkip)
  unfold readDirective
  revert hName
  generalize cursor.next.takeWhile isDirectiveChar = start
  obtain ⟨name, middle⟩ := start
  intro hMiddle
  have hSpaces := hMiddle.trans (reaches_skipSpaces middle)
  dsimp only
  split
  · exact Yields.error _
  · split
    · refine Yields.bind fun read hRead => ?_
      exact hLast _ _ (hSpaces.trans (advances_readVersion _ read hRead))
    · split
      · refine Yields.bind fun named hNamed => ?_
        have hHandle := hSpaces.trans (advances_readTagHandle _ named hNamed)
        split
        · exact Yields.error _
        · refine Yields.bind fun read hRead => ?_
          have hText := (hHandle.trans (reaches_skipSpaces _)).trans
            (advances_readTagText version fuel [] _ read hRead)
          split
          · exact hLast _ _ hText
          · exact Yields.error _
      · exact hLast _ _ (hMiddle.trans (reaches_skipWhile _ middle))

/-! ## Plain scalars -/

theorem reaches_readPlainBreaks (fuel : Nat) (read : List Char) (cursor : Cursor) :
    cursor.Reaches (readPlainBreaks fuel read cursor).2 := by
  fun_induction readPlainBreaks fuel read cursor with
  | case1 read cursor => exact Reaches.refl cursor
  | case2 fuel read cursor c after hBreak hSeparator => exact reaches_of_lineBreak hBreak
  | case3 fuel read cursor c after hBreak hSeparator ih =>
      exact (reaches_of_lineBreak hBreak).trans ih
  | case4 fuel read cursor hBreak hSpace ih => exact (reaches_next cursor).trans ih
  | case5 fuel read cursor hBreak hSpace => exact Reaches.refl cursor

theorem reaches_readPlainGap (fuel : Nat) (cursor : Cursor) :
    cursor.Reaches (readPlainGap fuel cursor).cursor := by
  have hSpaces := reaches_takeWhile (· == ' ') cursor
  unfold readPlainGap
  dsimp only
  split
  · exact hSpaces
  · next first after hBreak =>
    have hAfter := hSpaces.trans (reaches_of_lineBreak hBreak)
    have hBreaks := hAfter.trans (reaches_readPlainBreaks fuel [] after)
    split
    · exact hAfter
    · split
      · next hNone => simpa [hNone] using hBreaks
      · next hSome => simpa [hSome] using hBreaks

theorem reaches_readPlainParts (version : Version) (inFlow : Bool) (indent : Int) (fuel : Nat)
    (gap read : List Char) (stop : Mark) (newLine : Bool) (cursor : Cursor) :
    cursor.Reaches
      (readPlainParts version inFlow indent fuel gap read stop newLine cursor).cursor := by
  induction fuel generalizing gap read stop newLine cursor with
  | zero => exact Reaches.refl cursor
  | succ fuel ih =>
      have hPart := reaches_takeUntil (plainStops version inFlow) cursor
      have hGap := hPart.trans (reaches_readPlainGap fuel _)
      unfold readPlainParts
      dsimp only
      split
      · exact Reaches.refl cursor
      · split
        · exact Reaches.refl cursor
        · split
          · exact hGap
          · exact hGap.trans (ih _ _ _ _ _)

/-! ## Quoted scalars -/

theorem advances_readQuotedBreaks (fuel : Nat) (read : List Char) (cursor : Cursor) :
    Advances cursor (readQuotedBreaks fuel read cursor) := by
  induction fuel generalizing read cursor with
  | zero => exact Yields.ok (Reaches.refl cursor)
  | succ fuel ih =>
      have hSpaces := reaches_skipWhile isSpace cursor
      unfold readQuotedBreaks
      dsimp only
      split
      · exact Yields.error _
      · split
        · next hBreak => exact (ih _ _).after (hSpaces.trans (reaches_of_lineBreak hBreak))
        · exact Yields.ok hSpaces

theorem advances_readEscape (fuel : Nat) (cursor : Cursor) :
    Advances cursor (readEscape fuel cursor) := by
  unfold readEscape
  split
  · exact Yields.error _
  · split
    · exact Yields.ok (reaches_next cursor)
    · split
      · exact Yields.map fun _ _ => reaches_skip cursor _
      · exact Yields.error _
    · split
      · next hBreak =>
        exact Yields.map
          ((advances_readQuotedBreaks fuel [] _).after (reaches_of_lineBreak hBreak))
      · exact Yields.error _

theorem advances_readQuoted (double : Bool) (fuel : Nat) (read : List CodePoint) (cursor : Cursor) :
    Advances cursor (readQuoted double fuel read cursor) := by
  induction fuel generalizing read cursor with
  | zero => exact Yields.error _
  | succ fuel ih =>
      have hSpaces := reaches_takeWhile isSpace cursor
      unfold readQuoted
      dsimp only
      split
      · exact Yields.error _
      · split
        · exact Yields.ok (reaches_next cursor)
        · split
          · split
            · exact (ih _ _).after (reaches_skip cursor 2)
            · exact Yields.ok (reaches_next cursor)
          · split
            · split
              · exact Yields.error _
              · next hEscape =>
                have hAfter := advances_readEscape fuel cursor.next _ hEscape
                exact (ih _ _).after ((reaches_next cursor).trans hAfter)
            · split
              · split
                · exact (ih _ _).after hSpaces
                · next hBreak =>
                  have hLine := hSpaces.trans (reaches_of_lineBreak hBreak)
                  split
                  · exact Yields.error _
                  · next hBreaks =>
                    have hAfter := advances_readQuotedBreaks fuel [] _ _ hBreaks
                    exact (ih _ _).after (hLine.trans hAfter)
              · exact (ih _ _).after (reaches_next cursor)

/-! ## Block scalars -/

theorem reaches_readBlockHeader (cursor : Cursor) :
    Yields (fun header => cursor.Reaches header.cursor) (readBlockHeader cursor) := by
  have hLast (chomping : Chomping) (increment : Option Nat) (after : Cursor)
      (hAfter : cursor.Reaches after) :
      Yields (fun header : BlockHeader => cursor.Reaches header.cursor)
        (if increment = some 0 ∨ ¬isSpaceBreakOrEnd (after.peek 0) then .error .malformed
          else do
            return BlockHeader.mk chomping increment (headerComment? after)
              (← skipIgnoredLine after)) := by
    split
    · exact Yields.error _
    · refine Yields.bind fun last hSkip => Yields.ok ?_
      exact hAfter.trans (reaches_skipIgnoredLine after last hSkip)
  unfold readBlockHeader
  cases chomping? (cursor.peek 0) with
  | some chomping =>
      dsimp only
      cases increment? (cursor.peek 1) with
      | some increment => exact hLast _ _ _ (reaches_skip cursor 2)
      | none => exact hLast _ _ _ (reaches_next cursor)
  | none =>
      cases increment? (cursor.peek 0) with
      | some increment =>
          dsimp only
          cases chomping? (cursor.peek 1) with
          | some chomping => exact hLast _ _ _ (reaches_skip cursor 2)
          | none => exact hLast _ _ _ (reaches_next cursor)
      | none => exact hLast _ _ _ (Reaches.refl cursor)

theorem reaches_readIndentation (fuel : Nat) (read : List Char) (first : Option Nat)
    (deepest : Nat) (cursor : Cursor) :
    Yields (fun lines => cursor.Reaches lines.2.2)
      (readIndentation fuel read first deepest cursor) := by
  induction fuel generalizing read first deepest cursor with
  | zero => exact Yields.ok (Reaches.refl cursor)
  | succ fuel ih =>
      unfold readIndentation
      split
      · next hBreak =>
        intro lines hLines
        exact (reaches_of_lineBreak hBreak).trans (ih _ _ _ _ lines hLines)
      · split
        · intro lines hLines
          exact (reaches_next cursor).trans (ih _ _ _ _ lines hLines)
        · split
          · exact Yields.error _
          · exact Yields.ok (Reaches.refl cursor)

theorem reaches_skipIndent (indent fuel : Nat) (cursor : Cursor) :
    cursor.Reaches (skipIndent indent fuel cursor) := by
  fun_induction skipIndent indent fuel cursor with
  | case1 cursor => exact Reaches.refl cursor
  | case2 fuel cursor hIndented ih => exact (reaches_next cursor).trans ih
  | case3 fuel cursor hIndented => exact Reaches.refl cursor

theorem reaches_readBlockBreaks (indent fuel : Nat) (read : List Char) (cursor : Cursor) :
    cursor.Reaches (readBlockBreaks indent fuel read cursor).2 := by
  induction fuel generalizing read cursor with
  | zero => exact Reaches.refl cursor
  | succ fuel ih =>
      have hIndent := reaches_skipIndent indent fuel cursor
      unfold readBlockBreaks
      dsimp only
      split
      · next hBreak => exact (hIndent.trans (reaches_of_lineBreak hBreak)).trans (ih _ _)
      · exact hIndent

theorem reaches_breakChars (cursor : Cursor) : cursor.Reaches (breakChars cursor).2 := by
  unfold breakChars
  split
  · next hBreak => exact reaches_of_lineBreak hBreak
  · exact Reaches.refl cursor

theorem reaches_readBlockLines (folded topLevel : Bool) (indent fuel : Nat)
    (read breaks lastBreak : List Char) (cursor : Cursor) :
    cursor.Reaches
      (readBlockLines folded topLevel indent fuel read breaks lastBreak cursor).cursor := by
  induction fuel generalizing read breaks lastBreak cursor with
  | zero => exact Reaches.refl cursor
  | succ fuel ih =>
      have hLine := reaches_takeUntil (fun c _ => isLineEnd (some c)) cursor
      have hBreaks := (hLine.trans (reaches_breakChars _)).trans
        (reaches_readBlockBreaks indent fuel [] _)
      unfold readBlockLines
      dsimp only
      split
      · exact Reaches.refl cursor
      · split
        · exact hBreaks
        · split
          · exact hBreaks.trans (ih _ _ _ _)
          · exact hBreaks

theorem reaches_readBlockScalar (folded : Bool) (parentIndent : Int) (fuel : Nat)
    (cursor : Cursor) :
    Yields (fun scalar => cursor.Reaches scalar.cursor)
      (readBlockScalar folded parentIndent fuel cursor) := by
  unfold readBlockScalar
  refine Yields.bind fun header hHeader => ?_
  have hMiddle := reaches_readBlockHeader cursor header hHeader
  have hLines (topLevel : Bool) (indent : Nat) (breaks : List Char) {start : Cursor}
      (hStart : cursor.Reaches start) : cursor.Reaches
        (readBlockLines folded topLevel indent fuel [] breaks [] start).cursor :=
    hStart.trans (reaches_readBlockLines folded topLevel indent fuel [] breaks [] start)
  dsimp only
  split
  · refine Yields.bind fun lines hIndentation => Yields.ok (hLines _ _ _ ?_)
    exact hMiddle.trans (reaches_readIndentation fuel [] none 0 _ lines hIndentation)
  · exact Yields.ok (hLines _ _ _ (hMiddle.trans (reaches_readBlockBreaks _ fuel [] _)))

end SqlDialects.Yaml
