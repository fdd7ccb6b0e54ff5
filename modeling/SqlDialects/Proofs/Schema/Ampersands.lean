import SqlDialects.Proofs.Schema.Anchors
import SqlDialects.Proofs.Schema.Stages
import SqlDialects.Proofs.Yaml.Lexemes

/-!
# Ampersands in schemas

The check of a text looks for ampersands without reading tokens.  In a text without anchors
each ampersand is part of a comment, a scalar, a tag or a directive.  Such a text is refused
for anchors if and only if one of these shows an ampersand to the check
(`Schema.loadText_ampersands`).
-/

namespace SqlDialects

open Yaml
open Text (Points)

namespace Yaml.TokenStream

/-- A text is read to its end, and it has aliases only if it has anchors. -/
structure IsClosed (stream : TokenStream) : Prop where
  fault : stream.fault = none
  aliases : (∃ token ∈ stream.tokens, token.kind.isAlias = true) →
    ∃ token ∈ stream.tokens, token.kind.isAnchor = true

theorem isClosed_of_ofText {maxDepth : Nat} {state after : LoaderState} {content : List Char}
    {tree : NodeTree} (hState : state.anchors = [])
    (hTree : NodeTree.ofText maxDepth state content = (after, .ok tree)) :
    (ofText state.version content).IsClosed := by
  obtain ⟨hFault, hNoAliases⟩ := NodeTree.tokens_of_ofText hState hTree
  refine ⟨hFault, fun ⟨token, hToken, hAlias⟩ => ?_⟩
  refine Classical.byContradiction fun hNone => ?_
  have hAnchors : ∀ other ∈ (ofText state.version content).tokens, other.kind.isAnchor = false :=
    fun other hOther => Bool.eq_false_iff.2 fun hAnchor => hNone ⟨other, hOther, hAnchor⟩
  rw [(hNoAliases hAnchors token hToken).2] at hAlias
  cases hAlias

/-- Whether a text is read to its end without anchors and aliases. -/
def isAnchorless (stream : TokenStream) : Bool :=
  stream.fault.isNone &&
    stream.tokens.all fun token => !token.kind.isAnchor && !token.kind.isAlias

theorem isAnchorless_iff {stream : TokenStream} :
    stream.isAnchorless = true ↔ stream.fault = none ∧ stream.HasNoAnchors := by
  simp [isAnchorless, HasNoAnchors]

theorem HasNoAnchors.isClosed {stream : TokenStream} (hNone : stream.HasNoAnchors)
    (hFault : stream.fault = none) : stream.IsClosed := by
  refine ⟨hFault, fun ⟨token, hToken, hAlias⟩ => ?_⟩
  rw [(hNone token hToken).2] at hAlias
  cases hAlias

/-- In a closed text without anchors, each ampersand is part of a text. -/
theorem IsClosed.exists_text_of_ampersand {version : Version} {content : List Char}
    (hClosed : (ofText version content).IsClosed)
    (hAnchors : ∀ token ∈ (ofText version content).tokens, token.kind.isAnchor = false)
    {position : Nat} (hAmpersand : content[position]? = some '&') :
    ∃ lexeme ∈ lexemes version content,
      lexeme.kind.isText = true ∧ lexeme.Spans content position := by
  obtain ⟨lexeme, hLexeme, hWritten, hSpans⟩ :=
    exists_lexeme_of_ampersand hClosed.fault hAmpersand
  refine ⟨lexeme, hLexeme, ?_, hSpans⟩
  refine Classical.byContradiction fun hText => ?_
  have hKind : lexeme.kind.isComment = false := by
    cases hComment : lexeme.kind <;> first | rfl | simp [hComment, TokenKind.isText] at hText
  obtain ⟨token, hToken, hSame⟩ := exists_token_of_lexeme hClosed.fault hLexeme hKind
  have hAnchor := hAnchors token hToken
  rw [hSame] at hAnchor
  have hAlias : token.kind.isAlias = true := by
    simpa [TokenKind.isWritten, hText, hAnchor, hSame] using hWritten
  -- An alias would need an anchor.
  obtain ⟨other, hOther, hNamed⟩ := hClosed.aliases ⟨token, hToken, hAlias⟩
  rw [hAnchors other hOther] at hNamed
  cases hNamed

end Yaml.TokenStream

/-! ## What the check sees -/

/-- The check of a text takes an ampersand for the start of an anchor. -/
structure ShowsAmpersand (content : List Char) (position : Nat) : Prop where
  ampersand : content[position]? = some '&'
  before : precedesAnchor (charBefore? none content position) = true
  after : content[position + 1]?.any Text.isWord = true

theorem namesAnchor_iff {previous : Option Char} {content : List Char} :
    namesAnchor previous content = true ↔ ∃ position, content[position]? = some '&' ∧
      precedesAnchor (charBefore? previous content position) = true ∧
      content[position + 1]?.any Text.isWord = true := by
  induction content generalizing previous with
  | nil => simp [namesAnchor]
  | cons c content ih =>
      have hBefore (position : Nat) : charBefore? previous (c :: content) (position + 1) =
          charBefore? (some c) content position := by
        cases position <;> rfl
      have hHead : content.head? = content[0]? := by cases content <;> rfl
      rw [namesAnchor, Bool.or_eq_true, ih]
      constructor
      · rintro (hFirst | ⟨position, hAmpersand, hPrecedes, hWord⟩)
        · simp only [Bool.and_eq_true, beq_iff_eq] at hFirst
          obtain ⟨⟨rfl, hPrecedes⟩, hWord⟩ := hFirst
          exact ⟨0, rfl, hPrecedes, by simpa [hHead] using hWord⟩
        · exact ⟨position + 1, hAmpersand, by rwa [hBefore], hWord⟩
      · rintro ⟨position, hAmpersand, hPrecedes, hWord⟩
        cases position with
        | zero =>
            left
            obtain rfl : c = '&' := Option.some.inj hAmpersand
            simp only [beq_self_eq_true, Bool.true_and, Bool.and_eq_true]
            exact ⟨hPrecedes, by simpa [hHead] using hWord⟩
        | succ position =>
            rw [hBefore] at hPrecedes
            exact .inr ⟨position, hAmpersand, hPrecedes, hWord⟩

theorem namesAnchor_iff_showsAmpersand {content : List Char} :
    namesAnchor none content = true ↔ ∃ position, ShowsAmpersand content position := by
  rw [namesAnchor_iff]
  constructor
  · rintro ⟨position, hAmpersand, hBefore, hAfter⟩
    exact ⟨position, hAmpersand, hBefore, hAfter⟩
  · rintro ⟨position, hShows⟩
    exact ⟨position, hShows.ampersand, hShows.before, hShows.after⟩

theorem checkText_eq_anchors_iff {content : List Char} :
    checkText content = .error .anchors ↔
      content.length ≤ maxDocumentLength ∧ namesAnchor none content = true := by
  unfold checkText
  dsimp only
  split
  · next hLong => simp [Nat.not_le.2 hLong]
  · next hShort =>
    split
    · next hNames => simp [hNames, Nat.le_of_not_lt hShort]
    · next hNames => simp [hNames]

/-! ## Loading -/

namespace Schema

variable {state : LoaderState} {file : String} {version : Version}

theorem loadText_eq_anchors_iff {content : Points} :
    (loadText state file content).2 = .error (.refused .anchors) ↔
      checkText content.shown.toList = .error .anchors := by
  rw [loadText_eq_error_iff]
  constructor
  · intro hFails
    generalize hFault : SchemaFault.refused .anchors = fault at hFails
    cases hFails with
    | text hText =>
        cases hFault
        exact hText
    | illFormed hText hHalf => cases hFault
    | @reading text other hContent hText hDocument => cases other <;> cases hFault
    | document hContent hText hDocument hNull hFailsDocument =>
        cases hFailsDocument with
        | oversized hCounted =>
            cases hFault
            unfold checkNodeCount at hCounted
            split at hCounted <;> cases hCounted
        | key => cases hFault
        | tables hCounted hRoot hKeys hTables =>
            rcases tables_eq_error hTables with rfl | ⟨violations, rfl⟩ <;> cases hFault
  · exact fun hText => .text hText

/-- A closed text without anchors, such as one that loads (`TokenStream.isClosed_of_ofText`),
has its ampersands in comments, scalars, tags and directives.  It is refused for anchors if
and only if one of these shows an ampersand to the check. -/
theorem loadText_ampersands {content : String}
    (hLength : content.toList.length ≤ maxDocumentLength)
    (hClosed : (TokenStream.ofText version content.toList).IsClosed)
    (hAnchors : ∀ token ∈ (TokenStream.ofText version content.toList).tokens,
      token.kind.isAnchor = false) :
    (∀ position, content.toList[position]? = some '&' →
      ∃ lexeme ∈ TokenStream.lexemes version content.toList,
        lexeme.kind.isText = true ∧ lexeme.Spans content.toList position) ∧
    ((loadText state file content).2 = .error (.refused .anchors) ↔
      ∃ lexeme ∈ TokenStream.lexemes version content.toList, lexeme.kind.isText = true ∧
        ∃ position, lexeme.Spans content.toList position ∧
          ShowsAmpersand content.toList position) := by
  have hTexts := fun position (hAmpersand : content.toList[position]? = some '&') =>
    hClosed.exists_text_of_ampersand hAnchors hAmpersand
  refine ⟨hTexts, ?_⟩
  rw [loadText_eq_anchors_iff, Points.shown_ofString, checkText_eq_anchors_iff,
    and_iff_right hLength, namesAnchor_iff_showsAmpersand]
  constructor
  · rintro ⟨position, hShows⟩
    obtain ⟨lexeme, hLexeme, hText, hSpans⟩ := hTexts position hShows.ampersand
    exact ⟨lexeme, hLexeme, hText, position, hSpans, hShows⟩
  · rintro ⟨lexeme, -, -, position, -, hShows⟩
    exact ⟨position, hShows⟩

/-- A text with ampersands that the check does not see. -/
def departmentText : String :=
  "# R&D\ntables: []\nowner: 'R&D'\nnotes: |\n  R&D\n"

def commentText : String :=
  "# R &D tables\ntables: []\n"

def plainText : String :=
  "tables: []\nowner: R &D\n"

def quotedText : String :=
  "tables: []\nowner: 'R &D'\n"

def blockText : String :=
  "tables: []\nowner: |\n  R &D\n"

/-- Texts with an ampersand after a blank, in a comment and in scalars. -/
def ampersandTexts : List String :=
  [commentText, plainText, quotedText, blockText]

private theorem texts_checked :
    (departmentText :: ampersandTexts).all (fun text =>
        (TokenStream.ofText .newest text.toList).isAnchorless) = true ∧
      ampersandTexts.all (fun text =>
        decide (text.toList.length ≤ maxDocumentLength) && namesAnchor none text.toList) =
          true := by
  decide +kernel

private theorem isAnchorless_of_mem {text : String}
    (hText : text ∈ departmentText :: ampersandTexts) :
    (TokenStream.ofText .newest text.toList).fault = none ∧
      (TokenStream.ofText .newest text.toList).HasNoAnchors :=
  TokenStream.isAnchorless_iff.1 (List.all_eq_true.1 texts_checked.1 text hText)

theorem loadText_ampersands_departmentText :
    (TokenStream.ofText .newest departmentText.toList).IsClosed ∧
      (loadText {} "department.yaml" departmentText).2 ≠ .error (.refused .anchors) := by
  have hNames : namesAnchor none departmentText.toList = false := rfl
  obtain ⟨hFault, hNone⟩ := isAnchorless_of_mem List.mem_cons_self
  have hClosed := hNone.isClosed hFault
  refine ⟨hClosed, fun hRefused => ?_⟩
  obtain ⟨lexeme, -, -, position, -, hShows⟩ := (loadText_ampersands (by decide) hClosed
    fun token hToken => (hNone token hToken).1).2.1 hRefused
  rw [namesAnchor_iff_showsAmpersand.2 ⟨position, hShows⟩] at hNames
  cases hNames

/-- A text that is read to its end without anchors and aliases is refused for them. -/
structure IsMistaken (text : String) : Prop where
  fault : (TokenStream.ofText .newest text.toList).fault = none
  noAnchors : (TokenStream.ofText .newest text.toList).HasNoAnchors
  refused : (loadText {} "<string>" text).2 = .error (.refused .anchors)

theorem isMistaken_of_mem {text : String} (hText : text ∈ ampersandTexts) : IsMistaken text := by
  obtain ⟨hFault, hNone⟩ := isAnchorless_of_mem (List.mem_cons_of_mem _ hText)
  have hShown := List.all_eq_true.1 texts_checked.2 text hText
  rw [Bool.and_eq_true, decide_eq_true_eq] at hShown
  refine ⟨hFault, hNone, loadText_eq_anchors_iff.2 ?_⟩
  rw [Points.shown_ofString]
  exact checkText_eq_anchors_iff.2 hShown

/-- An ampersand after a blank is taken for an anchor wherever it stands. -/
theorem isMistaken_ampersands :
    IsMistaken commentText ∧ IsMistaken plainText ∧ IsMistaken quotedText ∧
      IsMistaken blockText := by
  refine ⟨?_, ?_, ?_, ?_⟩ <;> exact isMistaken_of_mem (by simp [ampersandTexts])

end Schema

end SqlDialects
