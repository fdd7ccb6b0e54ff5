import SqlDialects.Proofs.Yaml.Reach

/-!
# Faults of tokens

Before nodes are given values, few faults arise but breaks of the grammar: a character
code beyond the last character, a version without rules, and comments that meet.  Each
reader of tokens fails in one of these ways only (`TokenStream.isEarly_of_ofText`).
-/

namespace SqlDialects.Yaml

/-- A fault that is found before nodes are given values. -/
inductive Fault.IsEarly : Fault → Prop
  | malformed : IsEarly .malformed
  | characterCode {code : Nat} (hCode : 0x110000 ≤ code) : IsEarly (.characterCode code)
  | unknownVersion {version : Version} (hVersion : version.isKnown = false) :
      IsEarly (.unknownVersion version)
  | overlappingComments {given own : Comments} (hOverlap : given.overlap own = true) :
      IsEarly (.overlappingComments given own)

/-- If a step fails, its fault is of some kind. -/
def FailsAs {α : Type} (kind : Fault → Prop) (result : Except Fault α) : Prop :=
  ∀ fault, result = .error fault → kind fault

abbrev FailsEarly {α : Type} (result : Except Fault α) : Prop :=
  FailsAs Fault.IsEarly result

section

variable {α β : Type} {kind : Fault → Prop}

@[simp] theorem failsAs_error (fault : Fault) :
    FailsAs kind (.error fault : Except Fault α) ↔ kind fault := by
  simp [FailsAs]

@[simp] theorem failsAs_ok (value : α) : FailsAs kind (.ok value : Except Fault α) := by
  simp [FailsAs]

@[simp] theorem failsAs_pure (value : α) : FailsAs kind (pure value : Except Fault α) :=
  failsAs_ok value

@[simp] theorem failsAs_map (change : α → β) (result : Except Fault α) :
    FailsAs kind (result.map change) ↔ FailsAs kind result := by
  cases result <;> simp [Except.map]

@[simp] theorem failsAs_functor (change : α → β) (result : Except Fault α) :
    FailsAs kind (change <$> result) ↔ FailsAs kind result :=
  failsAs_map change result

@[simp] theorem failsAs_bind (result : Except Fault α) (next : α → Except Fault β) :
    FailsAs kind (result >>= next) ↔
      FailsAs kind result ∧ ∀ value, result = .ok value → FailsAs kind (next value) := by
  cases result <;> simp [bind, Except.bind]

@[simp] theorem failsAs_ite (condition : Prop) [Decidable condition]
    (first second : Except Fault α) :
    FailsAs kind (if condition then first else second) ↔
      (condition → FailsAs kind first) ∧ (¬condition → FailsAs kind second) := by
  split <;> simp_all

@[simp] theorem isEarly_malformed : Fault.malformed.IsEarly :=
  .malformed

end

/-! ## Tokens -/

@[simp] theorem failsEarly_readAnchorName (cursor : Cursor) :
    FailsEarly (readAnchorName cursor) := by
  simp [readAnchorName]

@[simp] theorem failsEarly_readTagHandle (cursor : Cursor) :
    FailsEarly (readTagHandle cursor) := by
  simp [readTagHandle]

@[simp] theorem failsEarly_readEscapedBytes (fuel : Nat) (read : List UInt8) (cursor : Cursor) :
    FailsEarly (readEscapedBytes fuel read cursor) := by
  fun_induction readEscapedBytes fuel read cursor <;> simp_all

@[simp] theorem failsEarly_readTagText (version : Version) (fuel : Nat) (read : List Char)
    (cursor : Cursor) : FailsEarly (readTagText version fuel read cursor) := by
  induction fuel generalizing read cursor with
  | zero => simp [readTagText]
  | succ fuel ih =>
      simp only [readTagText, failsAs_ite, failsAs_bind]
      refine ⟨fun _ => ⟨by simp, ?_⟩, fun _ => by simp⟩
      intro read hRead
      split
      · exact ih _ _
      · simp

@[simp] theorem failsEarly_readTag (version : Version) (fuel : Nat) (cursor : Cursor) :
    FailsEarly (readTag version fuel cursor) := by
  unfold readTag
  simp

@[simp] theorem failsEarly_readVersionNumber (cursor : Cursor) :
    FailsEarly (readVersionNumber cursor) := by
  unfold readVersionNumber
  dsimp only
  split <;> simp

@[simp] theorem failsEarly_readVersion (cursor : Cursor) :
    FailsEarly (readVersion cursor) := by
  simp [readVersion]

@[simp] theorem failsEarly_skipIgnoredLine (cursor : Cursor) :
    FailsEarly (skipIgnoredLine cursor) := by
  simp [skipIgnoredLine]

@[simp] theorem failsEarly_readDirective (version : Version) (fuel : Nat) (cursor : Cursor) :
    FailsEarly (readDirective version fuel cursor) := by
  simp [readDirective]

@[simp] theorem failsEarly_codePoint (code : Nat) : FailsEarly (codePoint code) := by
  simp only [codePoint, failsAs_ite, failsAs_error, failsAs_ok, implies_true, and_true]
  exact .characterCode

@[simp] theorem failsEarly_readQuotedBreaks (fuel : Nat) (read : List Char) (cursor : Cursor) :
    FailsEarly (readQuotedBreaks fuel read cursor) := by
  fun_induction readQuotedBreaks fuel read cursor <;> simp_all

@[simp] theorem failsEarly_readEscape (fuel : Nat) (cursor : Cursor) :
    FailsEarly (readEscape fuel cursor) := by
  unfold readEscape
  split
  · simp
  · split
    · simp
    · split <;> simp
    · split <;> simp

@[simp] theorem failsEarly_readQuoted (double : Bool) (fuel : Nat) (read : List Text.CodePoint)
    (cursor : Cursor) : FailsEarly (readQuoted double fuel read cursor) := by
  fun_induction readQuoted double fuel read cursor with
  | case6 fuel read cursor c rest hRest hDouble hSingle hEscape fault hFault =>
      simpa using failsEarly_readEscape _ _ fault hFault
  | case9 fuel read cursor c rest hRest hDouble hSingle hEscape hGap spaces middle hSpaces
      first after hBreak fault hFault =>
      simpa using failsEarly_readQuotedBreaks _ _ _ fault hFault
  | _ => simp_all

@[simp] theorem failsEarly_readBlockHeader (cursor : Cursor) :
    FailsEarly (readBlockHeader cursor) := by
  unfold readBlockHeader
  split
  simp

@[simp] theorem failsEarly_readIndentation (fuel : Nat) (read : List Char) (first : Option Nat)
    (deepest : Nat) (cursor : Cursor) :
    FailsEarly (readIndentation fuel read first deepest cursor) := by
  fun_induction readIndentation fuel read first deepest cursor <;> simp_all

@[simp] theorem failsEarly_readBlockScalar (folded : Bool) (parentIndent : Int) (fuel : Nat)
    (cursor : Cursor) : FailsEarly (readBlockScalar folded parentIndent fuel cursor) := by
  simp only [readBlockScalar, failsAs_bind, failsEarly_readBlockHeader, true_and]
  intro header hHeader
  split <;> simp

namespace Lexer

@[simp] theorem failsEarly_dropStaleCandidates (lexer : Lexer) :
    FailsEarly lexer.dropStaleCandidates := by
  simp [dropStaleCandidates]

@[simp] theorem failsEarly_dropCandidate (lexer : Lexer) : FailsEarly lexer.dropCandidate := by
  simp [dropCandidate]

@[simp] theorem failsEarly_saveCandidate (lexer : Lexer) : FailsEarly lexer.saveCandidate := by
  simp [saveCandidate]

@[simp] theorem failsEarly_endDocument (lexer : Lexer) : FailsEarly lexer.endDocument := by
  simp [endDocument]

@[simp] theorem failsEarly_readStreamEnd (lexer : Lexer) : FailsEarly lexer.readStreamEnd := by
  simp [readStreamEnd]

@[simp] theorem failsEarly_readDirectiveToken (fuel : Nat) (lexer : Lexer) :
    FailsEarly (lexer.readDirectiveToken fuel) := by
  simp [readDirectiveToken]

@[simp] theorem failsEarly_readSeparator (kind : TokenKind) (lexer : Lexer) :
    FailsEarly (lexer.readSeparator kind) := by
  simp [readSeparator]

@[simp] theorem failsEarly_readFlowStart (flow : Flow) (lexer : Lexer) :
    FailsEarly (lexer.readFlowStart flow) := by
  simp [readFlowStart]

@[simp] theorem failsEarly_readFlowEnd (kind : TokenKind) (lexer : Lexer) :
    FailsEarly (lexer.readFlowEnd kind) := by
  simp [readFlowEnd]

@[simp] theorem failsEarly_readFlowEntry (lexer : Lexer) : FailsEarly lexer.readFlowEntry := by
  simp [readFlowEntry]

@[simp] theorem failsEarly_readBlockEntry (lexer : Lexer) : FailsEarly lexer.readBlockEntry := by
  simp [readBlockEntry]

@[simp] theorem failsEarly_readKey (lexer : Lexer) : FailsEarly lexer.readKey := by
  simp [readKey]

@[simp] theorem failsEarly_readValue (lexer : Lexer) : FailsEarly lexer.readValue := by
  unfold readValue
  split <;> simp [readBareValue]

@[simp] theorem failsEarly_readAnchorOrAlias (make : String → TokenKind) (lexer : Lexer) :
    FailsEarly (lexer.readAnchorOrAlias make) := by
  simp [readAnchorOrAlias]

@[simp] theorem failsEarly_readTagToken (fuel : Nat) (lexer : Lexer) :
    FailsEarly (lexer.readTagToken fuel) := by
  simp [readTagToken]

@[simp] theorem failsEarly_readBlockToken (style : ScalarStyle) (fuel : Nat) (lexer : Lexer) :
    FailsEarly (lexer.readBlockToken style fuel) := by
  simp [readBlockToken]

@[simp] theorem failsEarly_readQuotedToken (style : ScalarStyle) (fuel : Nat) (lexer : Lexer) :
    FailsEarly (lexer.readQuotedToken style fuel) := by
  simp [readQuotedToken]

@[simp] theorem failsEarly_readPlainToken (fuel : Nat) (lexer : Lexer) :
    FailsEarly (lexer.readPlainToken fuel) := by
  simp [readPlainToken]

theorem failsEarly_step (fuel : Nat) (lexer : Lexer) : FailsEarly (lexer.step fuel) := by
  simp only [step, failsAs_bind, failsEarly_dropStaleCandidates, true_and]
  intro lexer hLexer
  split
  · simp
  · simp [readTokenAt]

end Lexer

theorem TokenStream.isEarly_of_readAll {size fuel : Nat} {lexer : Lexer} {fault : Fault}
    (hFault : (readAll size fuel lexer).fault = some fault) : fault.IsEarly := by
  fun_induction readAll size fuel lexer with
  | case1 =>
      cases hFault
      exact .malformed
  | case2 fuel lexer other hStep =>
      cases hFault
      exact lexer.failsEarly_step size _ hStep
  | case3 => cases hFault
  | case4 fuel lexer after hStep hDone ih => exact ih hFault

theorem TokenStream.isEarly_of_ofText {version : Version} {content : List Char} {fault : Fault}
    (hFault : (ofText version content).fault = some fault) : fault.IsEarly := by
  unfold ofText at hFault
  extract_lets size at hFault
  split at hFault
  · exact isEarly_of_readAll hFault
  · cases hFault
    exact .malformed

end SqlDialects.Yaml
