import Mathlib.Data.List.Induction
import SqlDialects.Proofs.Schema.Stages
import SqlDialects.Proofs.Yaml.LeftState

/-!
# One loader for many schemas

A loader that has loaded other texts gives every text the outcome that a new loader gives
it, if and only if nothing is left of those texts: no version that one of them declared,
and no collection that one of them left open (`Schema.isIndependent_iff`).
-/

namespace SqlDialects.Schema

open Yaml
open Text (Points)

/-- The state that a loader is in after some texts. -/
def stateAfter (file : String) (state : LoaderState) (texts : List Points) : LoaderState :=
  texts.foldl (fun state text => (loadText state file text).1) state

/-- The outcomes of texts that a loader loads one after another. -/
def outcomes (file : String) : LoaderState → List Points →
    List (Except SchemaFault (List Table))
  | _, [] => []
  | state, text :: texts =>
    (loadText state file text).2 :: outcomes file (loadText state file text).1 texts

/-- Every text has the outcome that a loader of its own gives it. -/
def IsIndependent (file : String) (texts : List Points) : Prop :=
  outcomes file {} texts = texts.map fun text => (loadText {} file text).2

/-- A new loader keeps nothing of a text: it refuses the text unread, by its check or because
the text is ill-formed, or the text neither declares another version nor breaks off inside a
collection. -/
inductive LeavesNothing (content : Points) : Prop
  | refused {fault : SafetyFault} (hText : checkText content.shown.toList = .error fault)
  | illFormed (hHalf : content.isWellFormed = false)
  | read {text : String} (hContent : content = text)
      (hVersion : (TokenStream.ofText .newest text.toList).version = .newest)
      (hDepth : (NodeTree.ofText maxDepth {} text.toList).1.openDepth = 0)

/-! ## What is left -/

section

variable (file : String) {content : Points}

/-- Only a text that passes the check is read, and what reading it leaves is kept. -/
theorem loadText_fst (state : LoaderState) (content : Points) :
    (∃ fault, checkText content.shown.toList = .error fault) ∧
        (loadText state file content).1 = state ∨
      content.isWellFormed = false ∧ (loadText state file content).1 = state ∨
      ∃ text : String, content = text ∧ (loadText state file content).1 =
        (NodeTree.ofText maxDepth state text.toList).1 := by
  cases hText : checkText content.shown.toList with
  | error fault => exact .inl ⟨⟨fault, rfl⟩, by rw [loadText_of_refused hText]⟩
  | ok passed =>
      rcases Points.ofString_or_illFormed content with ⟨text, rfl⟩ | hHalf
      · refine .inr (.inr ⟨text, rfl, ?_⟩)
        rw [Points.shown_ofString] at hText
        rw [loadText_ofString hText, Document.load]
        generalize NodeTree.ofText maxDepth state text.toList = part
        obtain ⟨after, result⟩ := part
        cases result with
        | error fault => rfl
        | ok tree =>
            dsimp only
            cases Document.ofTree text.toList.length tree <;> rfl
      · exact .inr (.inl ⟨hHalf, by rw [loadText_of_illFormed hText hHalf]⟩)

theorem isTidy_loadText {state : LoaderState} (hTidy : state.IsTidy) (content : Points) :
    (loadText state file content).1.IsTidy := by
  rcases loadText_fst file state content with ⟨-, hKept⟩ | ⟨-, hKept⟩ | ⟨text, -, hRead⟩
  · rwa [hKept]
  · rwa [hKept]
  · rw [hRead]
    exact NodeTree.isTidy_ofText maxDepth text.toList hTidy

theorem isTidy_stateAfter (texts : List Points) : (stateAfter file {} texts).IsTidy := by
  -- All texts but the first find a state that others left, so it has to be general.
  suffices hAny : ∀ state : LoaderState, state.IsTidy → (stateAfter file state texts).IsTidy from
    hAny {} LoaderState.isTidy_new
  induction texts with
  | nil => exact fun _ hTidy => hTidy
  | cons text texts ih => exact fun _ hTidy => ih _ (isTidy_loadText file hTidy text)

theorem leavesNothing_iff : LeavesNothing content ↔ (loadText {} file content).1 = {} := by
  rcases loadText_fst file {} content with
    ⟨⟨fault, hText⟩, hKept⟩ | ⟨hHalf, hKept⟩ | ⟨text, rfl, hRead⟩
  · exact ⟨fun _ => hKept, fun _ => .refused hText⟩
  · exact ⟨fun _ => hKept, fun _ => .illFormed hHalf⟩
  · constructor
    · intro hLeaves
      cases hLeaves with
      | refused hText => rw [loadText_of_refused hText]
      | illFormed hHalf => simp at hHalf
      | read hContent hVersion hDepth =>
          rw [Points.ofString_inj] at hContent
          rw [hRead, hContent]
          exact (NodeTree.isTidy_ofText maxDepth _ LoaderState.isTidy_new).eq_new hVersion hDepth
    · intro hNew
      rw [hRead] at hNew
      exact .read rfl (congrArg LoaderState.version hNew) (congrArg LoaderState.openDepth hNew)

end

/-! ## What tells an old loader from a new one -/

section

variable {state : LoaderState} {text : String}

theorem loadText_eq_error_of_load {fault : Yaml.Fault}
    (hText : fault? (checkText text.toList) = none)
    (hLoad : fault? (Document.load maxDepth state text.toList).2 = some fault) (file : String) :
    (loadText state file text).2 = .error (ofYaml fault) := by
  obtain ⟨value, hText⟩ := exists_ok_of_fault? hText
  exact loadText_eq_error_iff.2 (.reading rfl hText (fault?_eq_some_iff.1 hLoad))

theorem loadText_eq_error_of_reading {fault : Yaml.Fault}
    (hText : fault? (checkText text.toList) = none)
    (hRead : (NodeTree.reading maxDepth state text.toList).2 = .error fault) (file : String) :
    (loadText state file text).2 = .error (ofYaml fault) := by
  have hTree : (NodeTree.ofText maxDepth state text.toList).2 = .error fault := by
    rw [NodeTree.ofText_eq, hRead]
    rfl
  refine loadText_eq_error_of_load hText (fault?_eq_some_iff.2 ?_) file
  unfold Document.load
  generalize NodeTree.ofText maxDepth state text.toList = part at hTree
  obtain ⟨after, result⟩ := part
  obtain rfl : result = .error fault := hTree
  rfl

/-- As many open collections as a new loader allows, one inside the other. -/
def nestedText : String :=
  String.ofList (List.replicate maxDepth '[' ++ List.replicate maxDepth ']')

theorem kinds_nestedText {version : Version} (hVersion : version = .oldest ∨ version = .newest) :
    (TokenStream.ofText version nestedText.toList).tokens.map Token.kind =
      List.replicate maxDepth .flowSequenceStart ++
        (List.replicate maxDepth .flowSequenceEnd ++ [.streamEnd]) := by
  rcases hVersion with rfl | rfl <;> decide +kernel

theorem loadText_nestedText (hVersion : state.version = .oldest ∨ state.version = .newest)
    (hOpen : 0 < state.openDepth) (file : String) :
    (loadText state file nestedText).2 = .error .malformed := by
  have hText : fault? (checkText nestedText.toList) = none := rfl
  have hKinds := kinds_nestedText hVersion
  have hRead : (NodeTree.reading maxDepth state nestedText.toList).2 = .error .malformed := by
    unfold NodeTree.reading
    generalize TokenStream.ofText state.version nestedText.toList = stream at hKinds ⊢
    obtain ⟨starts, rest, hTokens, hStarts, -⟩ := List.map_eq_append_iff.1 hKinds
    have hLength : starts.length = maxDepth := by
      simpa using congrArg List.length hStarts
    have hOpens : ∀ token ∈ starts, token.kind = .flowSequenceStart := by
      intro token hToken
      exact List.eq_of_mem_replicate (hStarts ▸ List.mem_map_of_mem hToken)
    refine Builder.document_tooDeep ?_ hOpens ?_ hTokens ?_
    · rintro rfl
      cases hLength
    · simp only [hTokens, List.length_append]
      omega
    · show maxDepth < state.openDepth + starts.length
      omega
  exact loadText_eq_error_of_reading hText hRead file

/-- A binary numeral without digits; the versions differ in what is wrong with it. -/
def numeralText : String := "0b_"

theorem checkText_numeralText : fault? (checkText numeralText.toList) = none :=
  rfl

open Cursor Lexer TokenStream in
theorem ofText_numeralText (version : Version) :
    (ofText version numeralText.toList).tokens.head?.map Token.kind =
        some (.scalar .plain numeralText) ∧
      (ofText version numeralText.toList).version = version := by
  -- The version is not known, so the reader is run by rewriting and not by evaluation.
  simp [numeralText, ofText, readAll, step, isPrintable, bind, Except.bind, pure, Except.pure,
    -- gaps
    skipByteOrderMark, skipGap, start, skipWhile, takeWhile, takeUntil, takeUntilFrom, peek,
    lineBreak?, isBreak, isSpace, isGap, isLineEnd, next, mark, startsWith,
    -- keys and indentation
    dropStaleCandidates, isStale, saveCandidate, dropCandidate, candidate?, level, inFlow,
    unwind, unwindFrom,
    -- the scalar
    readTokenAt, isPlainStart, isIndicator, readPlainToken, readPlainParts, plainStops,
    readPlainGap, emptyLinesOf, push, withComments,
    -- the end
    readStreamEnd, endDocument, pushEmpty, attachComments, commentBefore]

theorem loadText_numeralText (hVersion : state.version.isKnown = false) (file : String) :
    (loadText state file numeralText).2 = .error (.valueless (.unknownVersion state.version)) := by
  obtain ⟨hKind, hStart⟩ := ofText_numeralText state.version
  have hRead : (NodeTree.reading maxDepth state numeralText.toList).2 =
      .error (.unknownVersion state.version) := by
    unfold NodeTree.reading
    generalize TokenStream.ofText state.version numeralText.toList = stream at hKind hStart ⊢
    rw [← hStart] at hVersion ⊢
    exact Builder.document_unknownVersion _ hKind hVersion
  exact loadText_eq_error_of_reading checkText_numeralText hRead file

theorem load_eq_error_of_malformed {file : String}
    (hLoaded : (loadText state file text).2 = .error .malformed) :
    (Document.load maxDepth state text.toList).2 = .error .malformed := by
  have hFails := loadText_eq_error_iff.1 hLoaded
  generalize hResult : SchemaFault.malformed = result at hFails
  cases hFails with
  | text hText => cases hResult
  | illFormed hText hHalf => simp at hHalf
  | reading hContent hText hDocument =>
      next other =>
      rw [Points.ofString_inj.1 hContent]
      cases other <;> cases hResult
      exact hDocument
  | document hContent hText hDocument hNull hFault =>
      cases hFault with
      | oversized hCounted => cases hResult
      | key hCounted hRoot hKeys => cases hResult
      | tables hCounted hRoot hKeys hTables =>
          rcases tables_eq_error hTables with rfl | ⟨violations, rfl⟩ <;> cases hResult

theorem loadText_new_numeralText (file : String) :
    (loadText {} file numeralText).2 = .error (.valueless .emptyNumeral) := by
  have hLoad : fault? (Document.load maxDepth {} numeralText.toList).2 = some .emptyNumeral := by
    decide +kernel
  exact loadText_eq_error_of_load checkText_numeralText hLoad file

theorem loadText_oldest_numeralText (file : String) :
    (loadText { version := .oldest } file numeralText).2 =
      .error (.valueless (.integerNumeral .malformed .two "")) := by
  have hLoad : fault? (Document.load maxDepth { version := .oldest } numeralText.toList).2 =
      some (.integerNumeral .malformed .two "") := by
    decide +kernel
  exact loadText_eq_error_of_load checkText_numeralText hLoad file

theorem eq_new_of_loadText {file : String} (hTidy : state.IsTidy)
    (hSame : ∀ text : Points, (loadText state file text).2 = (loadText {} file text).2) :
    state = {} := by
  have hNumeral := hSame numeralText
  rw [loadText_new_numeralText] at hNumeral
  have hKnown : state.version = .oldest ∨ state.version = .newest := by
    cases hKnown : state.version.isKnown with
    | false =>
        rw [loadText_numeralText hKnown] at hNumeral
        cases hNumeral
    | true => simpa [Version.isKnown] using hKnown
  have hDepth : state.openDepth = 0 := by
    refine Nat.eq_zero_of_not_pos fun hOpen => ?_
    have hNested := load_eq_error_of_malformed
      ((hSame nestedText).symm.trans (loadText_nestedText hKnown hOpen file))
    have hNew : fault? (Document.load maxDepth {} nestedText.toList).2 ≠ some .malformed := by
      decide +kernel
    exact hNew (fault?_eq_some_iff.2 hNested)
  rcases hKnown with hOldest | hNewest
  · have hState := hTidy.eq_of_openDepth hDepth
    rw [hOldest] at hState
    rw [hState, loadText_oldest_numeralText] at hNumeral
    cases hNumeral
  · exact hTidy.eq_new hNewest hDepth

end

/-! ## Sequences of texts -/

section

variable {file : String} {state : LoaderState} {texts : List Points} {last : Points}

theorem stateAfter_concat :
    stateAfter file state (texts ++ [last]) =
      (loadText (stateAfter file state texts) file last).1 := by
  simp [stateAfter]

theorem outcomes_concat :
    outcomes file state (texts ++ [last]) =
      outcomes file state texts ++ [(loadText (stateAfter file state texts) file last).2] := by
  induction texts generalizing state with
  | nil => rfl
  | cons text texts ih => simp only [List.cons_append, outcomes, ih]; rfl

theorem isIndependent_concat_iff :
    IsIndependent file (texts ++ [last]) ↔
      IsIndependent file texts ∧
        (loadText (stateAfter file {} texts) file last).2 = (loadText {} file last).2 := by
  unfold IsIndependent
  rw [outcomes_concat, List.map_append]
  exact List.append_singleton_inj

theorem stateAfter_eq_new (hTexts : ∀ text ∈ texts, LeavesNothing text) :
    stateAfter file {} texts = {} := by
  induction texts with
  | nil => rfl
  | cons text texts ih =>
      have hText := (leavesNothing_iff file).1 (hTexts text List.mem_cons_self)
      show stateAfter file (loadText {} file text).1 texts = {}
      rw [hText]
      exact ih fun other hOther => hTexts other (List.mem_cons_of_mem text hOther)

theorem isIndependent_of_leavesNothing (hTexts : ∀ text ∈ texts, LeavesNothing text) :
    IsIndependent file texts := by
  induction texts with
  | nil => rfl
  | cons text texts ih =>
      have hText := (leavesNothing_iff file).1 (hTexts text List.mem_cons_self)
      unfold IsIndependent
      rw [outcomes, hText, List.map_cons]
      congr 1
      exact ih fun other hOther => hTexts other (List.mem_cons_of_mem text hOther)

end

theorem loadText_stateAfter_iff (file : String) (texts : List Points) :
    (∀ last, (loadText (stateAfter file {} texts) file last).2 = (loadText {} file last).2) ↔
      stateAfter file {} texts = {} := by
  constructor
  · exact eq_new_of_loadText (isTidy_stateAfter file texts)
  · intro hNew last
    rw [hNew]

/-- A loader is as good as a new one for each text, after all beginnings of a sequence of
texts, if and only if each text of the sequence leaves nothing. -/
theorem isIndependent_iff (file : String) (texts : List Points) :
    (∀ earlier, earlier <+: texts → ∀ last, IsIndependent file (earlier ++ [last])) ↔
      ∀ text ∈ texts, LeavesNothing text := by
  constructor
  · intro hAll
    induction texts using List.reverseRecOn with
    | nil => simp
    | append_singleton texts text ih =>
        have hTexts : ∀ other ∈ texts, LeavesNothing other :=
          ih fun earlier hEarlier => hAll earlier (hEarlier.trans (List.prefix_append texts [text]))
        -- Any text that follows has the outcome of a new loader, so nothing is left here.
        have hAfter : stateAfter file {} (texts ++ [text]) = {} :=
          (loadText_stateAfter_iff file _).1 fun last =>
            (isIndependent_concat_iff.1 (hAll _ List.prefix_rfl last)).2
        rw [stateAfter_concat, stateAfter_eq_new hTexts] at hAfter
        intro other hOther
        rcases List.mem_append.1 hOther with hEarlier | hLast
        · exact hTexts other hEarlier
        · rw [List.mem_singleton.1 hLast, leavesNothing_iff file]
          exact hAfter
  · intro hTexts earlier hEarlier last
    have hLeft : ∀ text ∈ earlier, LeavesNothing text :=
      fun text hText => hTexts text (hEarlier.subset hText)
    rw [isIndependent_concat_iff, stateAfter_eq_new hLeft]
    exact ⟨isIndependent_of_leavesNothing hLeft, rfl⟩

/-- A document of the oldest version, in which `no` is a truth value. -/
def oldestText : String :=
  "%YAML 1.1\n---\ntables: []\n"

/-- A table that is named `no`. -/
def truthWordText : String :=
  "tables: [\x7bname: no, fields: [\x7bname: a, type: int\x7d]\x7d]\n"

theorem not_isIndependent_truthWordText :
    (loadText {} "<string>" truthWordText).2.toOption.isSome = true ∧
      ¬IsIndependent "<string>" [.ofString oldestText, .ofString truthWordText] := by
  have hNew : (loadText {} "<string>" truthWordText).2.toOption.isSome = true := by
    decide +kernel
  refine ⟨hNew, fun hSame => ?_⟩
  have hOutcomes := congrArg (List.map fun outcome => outcome.toOption.isSome) hSame
  revert hOutcomes
  decide +kernel

end SqlDialects.Schema
