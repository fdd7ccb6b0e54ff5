import SqlDialects.Proofs.Yaml.TokenPlaces
import SqlDialects.Yaml.Node

/-!
# Aliases need anchors

A tree is built from tokens in their order, and an alias is passed only when a node with
its name was declared before.  So a text without anchors that makes a tree has no aliases
either (`NodeTree.tokens_of_ofText`).
-/

namespace SqlDialects.Yaml

namespace Builder

def kinds (builder : Builder) : List TokenKind :=
  builder.tokens.map Token.kind

/-- No node is declared, and no anchor is left that could declare one. -/
structure IsQuiet (builder : Builder) : Prop where
  anchors : builder.anchors = []
  kinds : ∀ kind ∈ builder.kinds, kind.isAnchor = false

/-- A builder goes on past some tokens.  Without anchors it declares nothing, and no alias
is among the tokens. -/
def Passes (builder after : Builder) : Prop :=
  ∃ passed, builder.kinds = passed ++ after.kinds ∧
    (builder.IsQuiet → after.anchors = builder.anchors ∧ ∀ kind ∈ passed, kind.isAlias = false)

/-- What a reader does when it succeeds. -/
def Keeps {α : Type} (builder : Builder) (result : Builder × Except Fault α) : Prop :=
  ∀ value, result.2 = .ok value → builder.Passes result.1

section

variable {α : Type} {builder middle after : Builder}

theorem Passes.same (hAnchors : after.anchors = builder.anchors)
    (hKinds : after.kinds = builder.kinds) : builder.Passes after :=
  ⟨[], by simp [hKinds], fun _ => ⟨hAnchors, by simp⟩⟩

theorem Passes.refl (builder : Builder) : builder.Passes builder :=
  Passes.same rfl rfl

theorem Passes.isQuiet (hPasses : builder.Passes after) (hQuiet : builder.IsQuiet) :
    after.IsQuiet := by
  obtain ⟨passed, hKinds, hPassed⟩ := hPasses
  refine ⟨(hPassed hQuiet).1.trans hQuiet.anchors, fun kind hKind => hQuiet.kinds kind ?_⟩
  rw [hKinds]
  exact List.mem_append_right passed hKind

theorem Passes.trans (hFirst : builder.Passes middle) (hSecond : middle.Passes after) :
    builder.Passes after := by
  have hQuietMiddle := hFirst.isQuiet
  obtain ⟨first, hKinds, hFirst⟩ := hFirst
  obtain ⟨second, hLaterKinds, hSecond⟩ := hSecond
  refine ⟨first ++ second, by rw [hKinds, hLaterKinds, List.append_assoc], fun hQuiet => ?_⟩
  obtain ⟨hAnchors, hFree⟩ := hFirst hQuiet
  obtain ⟨hLaterAnchors, hLaterFree⟩ := hSecond (hQuietMiddle hQuiet)
  refine ⟨hLaterAnchors.trans hAnchors, fun kind hKind => ?_⟩
  rcases List.mem_append.1 hKind with hKind | hKind
  · exact hFree kind hKind
  · exact hLaterFree kind hKind

theorem Keeps.error (builder after : Builder) (fault : Fault) :
    Keeps builder ((after, .error fault) : Builder × Except Fault α) := by
  intro value hValue
  cases hValue

theorem Keeps.ok (hPasses : builder.Passes after) (value : α) : Keeps builder (after, .ok value) :=
  fun _ _ => hPasses

theorem Keeps.later {result : Builder × Except Fault α} (hResult : Keeps middle result)
    (hMiddle : builder.Passes middle) : Keeps builder result :=
  fun value hValue => hMiddle.trans (hResult value hValue)

theorem Keeps.passes {result : Builder × Except Fault α} {value : α}
    (hKeeps : Keeps builder result) (hResult : result = (after, .ok value)) :
    builder.Passes after := by
  have hPasses := hKeeps value (by rw [hResult])
  rw [hResult] at hPasses
  exact hPasses

theorem keeps_of_fst {result : Builder × Except Fault α} (hPasses : builder.Passes result.1) :
    Keeps builder result :=
  fun _ _ => hPasses

theorem keeps_reject (builder : Builder) : Keeps builder (builder.reject : _ × Except Fault α) :=
  keeps_of_fst (Passes.refl builder)

end

/-! ## Single tokens -/

section

variable {builder after : Builder}

theorem kind?_eq_head? (builder : Builder) : builder.kind? = builder.kinds.head? := by
  simp [kind?, kinds]

theorem IsQuiet.kind?_ne_anchor (hQuiet : builder.IsQuiet) (name : String) :
    builder.kind? ≠ some (.anchor name) := by
  intro hKind
  rw [kind?_eq_head?] at hKind
  have hFree := hQuiet.kinds _ (List.mem_of_mem_head? hKind)
  cases hFree

def IsClear (builder : Builder) : Prop :=
  ∀ kind, builder.kind? = some kind → kind.isAlias = false

theorem isClear_of_kind {kind : TokenKind} (hKind : builder.kind? = some kind)
    (hAlias : kind.isAlias = false) : builder.IsClear := by
  intro other hOther
  rw [hKind] at hOther
  cases hOther
  exact hAlias

theorem isClear_of_isNext {kinds : List TokenKind} (hNext : builder.isNext kinds = true)
    (hKinds : ∀ kind ∈ kinds, kind.isAlias = false) : builder.IsClear := by
  intro kind hKind
  have hMem : kind ∈ kinds := by
    simpa [isNext, hKind] using hNext
  exact hKinds kind hMem

theorem kind?_of_isNext {kind : TokenKind} (hNext : builder.isNext [kind] = true) :
    builder.kind? = some kind := by
  obtain ⟨other, hOther, hMem⟩ := (Option.any_eq_true _ _).1 hNext
  have hEqual : other = kind := by simpa using hMem
  rw [hOther, hEqual]

/-- A token may be dropped unless it is an alias in a stream without anchors. -/
theorem passes_drop (hClear : builder.IsQuiet → builder.IsClear) :
    builder.Passes builder.drop := by
  cases hTokens : builder.tokens with
  | nil =>
      exact ⟨[], by simp [kinds, Builder.drop, hTokens], fun _ => ⟨rfl, by simp⟩⟩
  | cons token tokens =>
      refine ⟨[token.kind], by simp [kinds, Builder.drop, hTokens], fun hQuiet => ⟨rfl, ?_⟩⟩
      have hAlias := hClear hQuiet token.kind (by simp [kind?, hTokens])
      simpa using hAlias

theorem IsClear.drop (hClear : builder.IsClear) : builder.Passes builder.drop :=
  passes_drop fun _ => hClear

@[simp] theorem kinds_mapComments (change : Comments → Comments) (builder : Builder) :
    (builder.mapComments change).kinds = builder.kinds := by
  unfold mapComments
  split
  · rfl
  · next hTokens => simp [kinds, hTokens]

@[simp] theorem anchors_mapComments (change : Comments → Comments) (builder : Builder) :
    (builder.mapComments change).anchors = builder.anchors := by
  unfold mapComments
  split <;> rfl

theorem passes_mapComments (change : Comments → Comments) (builder : Builder) :
    builder.Passes (builder.mapComments change) :=
  Passes.same (by simp) (by simp)

theorem IsClear.pass (hClear : builder.IsClear) : Yields builder.Passes builder.pass := by
  unfold Builder.pass
  split
  · refine Yields.ite (fun _ => Yields.ok hClear.drop) fun _ => ?_
    refine Yields.ite (fun _ => Yields.error _) fun _ => Yields.ok ?_
    exact hClear.drop.trans (passes_mapComments _ _)
  · exact Yields.ok hClear.drop

theorem IsClear.passValue (hClear : builder.IsClear) : Yields builder.Passes builder.passValue := by
  unfold Builder.passValue
  split
  · exact Yields.ok hClear.drop
  · exact Yields.map fun after hAfter => (hClear.pass after hAfter).trans (passes_mapComments _ _)
  · exact Yields.map fun after hAfter => (hClear.pass after hAfter).trans (passes_mapComments _ _)
  · exact hClear.pass

/-- Without anchors, the properties of a node are a tag at most. -/
theorem passes_properties (builder : Builder) :
    Yields (fun read => builder.Passes read.2 ∧ (builder.IsQuiet → read.1.anchor = none))
      builder.properties := by
  unfold Builder.properties
  dsimp only
  split
  · next name hKind =>
    have hClear : builder.IsClear := isClear_of_kind hKind rfl
    have hNever {anchor : Option String} (hQuiet : builder.IsQuiet) : anchor = none :=
      absurd hKind (hQuiet.kind?_ne_anchor name)
    refine Yields.bind fun rest hPass => ?_
    have hRest := hClear.pass rest hPass
    split
    · next hTag => exact Yields.ok ⟨hRest.trans (isClear_of_kind hTag rfl).drop, hNever⟩
    · exact Yields.ok ⟨hRest, hNever⟩
  · next handle suffix hKind =>
    have hClear : builder.IsClear := isClear_of_kind hKind rfl
    have hRest : builder.Passes (builder.pass.toOption.getD builder.drop) := by
      cases hPass : builder.pass with
      | error fault => exact hClear.drop
      | ok rest => exact hClear.pass rest hPass
    split
    · next name hNext =>
      refine Yields.ok ⟨hRest.trans (isClear_of_kind hNext rfl).drop, fun hQuiet => ?_⟩
      exact absurd hNext ((hRest.isQuiet hQuiet).kind?_ne_anchor name)
    · exact Yields.ok ⟨hRest, fun _ => rfl⟩
  · exact Yields.ok ⟨Passes.refl builder, fun _ => rfl⟩

section

variable {start : Builder} {anchor : Option String} (hStart : start.Passes builder)
  (hAnchor : start.IsQuiet → anchor = none)
include hStart hAnchor

theorem passes_declare : start.Passes (builder.declare anchor).2 := by
  obtain ⟨passed, hKinds, hPassed⟩ := hStart
  cases anchor with
  | none => exact ⟨passed, hKinds, hPassed⟩
  | some name =>
      refine ⟨passed, hKinds, fun hQuiet => ?_⟩
      cases hAnchor hQuiet

end

theorem passes_define (target : Option Nat) (node : Node) (builder : Builder) :
    builder.Passes (builder.define target node) := by
  cases target <;> exact Passes.same rfl rfl

theorem passes_scalar {start : Builder} {properties : Properties} (hStart : start.Passes builder)
    (hAnchor : start.IsQuiet → properties.anchor = none) (tag : Option Tag) (style : ScalarStyle)
    (content : Text.Points) : start.Passes (builder.scalar properties tag style content).1 := by
  unfold Builder.scalar
  dsimp only
  split
  · exact hStart
  · exact (passes_declare hStart hAnchor).trans (passes_define _ _ _)

theorem passes_emptyOrReject {start : Builder} {properties : Properties}
    (hStart : start.Passes builder) (hAnchor : start.IsQuiet → properties.anchor = none)
    (tag : Option Tag) : start.Passes (builder.emptyOrReject properties tag).1 := by
  unfold emptyOrReject
  split
  · exact hStart
  · split
    · exact passes_scalar hStart hAnchor tag .plain ""
    · exact hStart

theorem passes_of_collection {inBlock indentless : Bool} {style : CollectionStyle}
    (hStart : builder.collection? inBlock indentless = some (style, after)) :
    builder.Passes after := by
  unfold collection? at hStart
  split at hStart
  · next hKind =>
    cases hStart
    exact (isClear_of_kind hKind rfl).drop
  · next hKind =>
    cases hStart
    exact (isClear_of_kind hKind rfl).drop
  · split at hStart
    · cases hStart
      exact passes_mapComments _ builder
    · cases hStart
  · next hKind =>
    split at hStart
    · cases hStart
      exact (isClear_of_kind hKind rfl).drop
    · cases hStart
  · next hKind =>
    split at hStart
    · cases hStart
      exact (isClear_of_kind hKind rfl).drop
    · cases hStart
  · cases hStart

theorem passes_of_dropComma {isFirst : Bool} (hComma : builder.dropComma? isFirst = some after) :
    builder.Passes after := by
  unfold dropComma? at hComma
  split at hComma
  · cases hComma
    exact Passes.refl builder
  · split at hComma
    · next hNext =>
      cases hComma
      exact (isClear_of_isNext hNext (by simp [TokenKind.isAlias])).drop
    · cases hComma

end

/-! ## Nodes -/

/-- What the readers of nodes keep with a given fuel, one field for each of them. -/
structure KeepsNodes (fuel : Nat) : Prop where
  node : ∀ (inBlock indentless : Bool) (builder : Builder),
    Keeps builder (node fuel inBlock indentless builder)
  collection : ∀ (style : CollectionStyle) {properties : Properties} (tag : Option Tag)
    {start builder : Builder}, start.Passes builder → (start.IsQuiet → properties.anchor = none) →
      Keeps start (collection fuel style properties tag builder)
  nodeUnless : ∀ (ends : List TokenKind) (inBlock indentless : Bool) (mark : Mark)
    (builder : Builder), Keeps builder (nodeUnless fuel ends inBlock indentless mark builder)
  items : ∀ (style : SequenceStyle) (isFirst : Bool) (read : List Node) (builder : Builder),
    Keeps builder (items fuel style isFirst read builder)
  value : ∀ (style : MappingStyle) (builder : Builder), Keeps builder (value fuel style builder)
  entry : ∀ (style : MappingStyle) (builder : Builder), Keeps builder (entry fuel style builder)
  entries : ∀ (style : MappingStyle) (isFirst : Bool) (read : List (Node × Node))
    (builder : Builder), Keeps builder (entries fuel style isFirst read builder)

section

variable {fuel : Nat} {builder : Builder}

theorem keeps_empty (mark : Mark) (builder : Builder) : Keeps builder (builder.empty mark) :=
  keeps_of_fst (passes_scalar (Passes.refl builder) (fun _ => rfl) none .plain "")

theorem passes_atDepth (depth : Nat) (builder : Builder) :
    builder.Passes { builder with depth := depth } :=
  Passes.same rfl rfl

theorem keeps_enter (builder : Builder) : Keeps builder builder.enter := by
  unfold enter
  dsimp only
  split
  · exact Keeps.error builder _ _
  · exact Keeps.ok (passes_atDepth _ builder) ()

theorem KeepsNodes.node_succ (hNodes : KeepsNodes fuel) (inBlock indentless : Bool)
    (builder : Builder) :
    Keeps builder (Builder.node (fuel + 1) inBlock indentless builder) := by
  unfold Builder.node
  split
  · split
    · next name _ _ hFind =>
      -- An alias is passed only if its name is found among the declared nodes.
      refine Keeps.ok (passes_drop fun hQuiet => ?_) _
      rw [hQuiet.anchors] at hFind
      cases hFind
    · exact keeps_reject builder
  · split
    · exact Keeps.error builder _ _
    · next properties rest hProperties =>
      obtain ⟨hRest, hAnchor⟩ := passes_properties builder _ hProperties
      split
      · exact Keeps.error builder _ _
      · split
        · next style content hKind =>
          have hDrop := hRest.trans (isClear_of_kind hKind rfl).drop
          exact keeps_of_fst (passes_scalar hDrop hAnchor _ _ _)
        · next style start hStart _ =>
          exact hNodes.collection style _ (hRest.trans (passes_of_collection hStart)) hAnchor
        · exact keeps_of_fst (passes_emptyOrReject hRest hAnchor _)

theorem KeepsNodes.nodeUnless_succ (hNodes : KeepsNodes fuel) (ends : List TokenKind)
    (inBlock indentless : Bool) (mark : Mark) (builder : Builder) :
    Keeps builder (Builder.nodeUnless (fuel + 1) ends inBlock indentless mark builder) := by
  unfold Builder.nodeUnless
  split
  · exact keeps_empty mark builder
  · exact hNodes.node inBlock indentless builder

theorem KeepsNodes.collection_succ (hNodes : KeepsNodes fuel) (style : CollectionStyle)
    {properties : Properties} (tag : Option Tag) {start : Builder}
    (hStart : start.Passes builder) (hAnchor : start.IsQuiet → properties.anchor = none) :
    Keeps start (Builder.collection (fuel + 1) style properties tag builder) := by
  unfold Builder.collection
  split
  · exact Keeps.error start _ _
  · next entered _ hEnter =>
    have hEntered := hStart.trans ((keeps_enter builder).passes hEnter)
    have hDeclared := passes_declare hEntered hAnchor
    -- Which place the node got in the table does not matter.
    generalize entered.declare properties.anchor = declared at hDeclared
    obtain ⟨target, inside⟩ := declared
    have hLeave {rest : Builder} (hRest : inside.Passes rest) (node : Node) :
        start.Passes (rest.leave.define target node) :=
      (hDeclared.trans hRest).trans
        ((passes_atDepth _ rest).trans (passes_define target node rest.leave))
    cases style with
    | sequence style =>
        dsimp only
        cases hItems : Builder.items fuel style true [] inside with
        | mk rest result =>
            cases result with
            | error fault => exact Keeps.error start _ _
            | ok read => exact Keeps.ok (hLeave ((hNodes.items style true [] _).passes hItems) _) _
    | mapping style =>
        dsimp only
        cases hEntries : Builder.entries fuel style true [] inside with
        | mk rest result =>
            cases result with
            | error fault => exact Keeps.error start _ _
            | ok read =>
                exact Keeps.ok (hLeave ((hNodes.entries style true [] _).passes hEntries) _) _

theorem KeepsNodes.value_succ (hNodes : KeepsNodes fuel) (style : MappingStyle)
    (builder : Builder) : Keeps builder (Builder.value (fuel + 1) style builder) := by
  unfold Builder.value
  dsimp only
  split
  · next hNext =>
    have hClear : builder.IsClear := isClear_of_isNext hNext (by simp [TokenKind.isAlias])
    split
    · exact Keeps.error builder _ _
    · next rest hRest =>
      have hPassed : builder.Passes rest := by
        split at hRest
        · exact hClear.passValue rest hRest
        · cases hRest
          exact hClear.drop
      exact (hNodes.nodeUnless _ _ _ _ _).later hPassed
  · exact keeps_empty _ builder

private theorem passes_drop_of_isNext {kind : TokenKind} (hAlias : kind.isAlias = false)
    (hNext : builder.isNext [kind] = true) : builder.Passes builder.drop :=
  (isClear_of_isNext hNext (by simpa using hAlias)).drop

theorem KeepsNodes.flowItems_succ (hNodes : KeepsNodes fuel) (isFirst : Bool) (read : List Node)
    (builder : Builder) :
    Keeps builder (Builder.items (fuel + 1) .flow isFirst read builder) := by
  unfold Builder.items
  split
  · next hEnd => exact Keeps.ok (passes_drop_of_isNext rfl hEnd) _
  · split
    · exact keeps_reject builder
    · next rest hComma =>
      have hRest := passes_of_dropComma hComma
      split
      · next hEnd => exact Keeps.ok (hRest.trans (passes_drop_of_isNext rfl hEnd)) _
      · have hItem : Keeps rest (if rest.isNext [.key] then
            Builder.collection fuel (.mapping .single) ⟨none, none, rest.mark⟩ none rest
            else Builder.node fuel false false rest) := by
          split
          · exact hNodes.collection _ none (Passes.refl rest) fun _ => rfl
          · exact hNodes.node false false rest
        dsimp only
        split
        · exact Keeps.error builder _ _
        · next hResult =>
          have hPassed := hRest.trans (hItem.passes hResult)
          exact (hNodes.items .flow false _ _).later hPassed

theorem KeepsNodes.items_succ (hNodes : KeepsNodes fuel) (style : SequenceStyle)
    (isFirst : Bool) (read : List Node) (builder : Builder) :
    Keeps builder (Builder.items (fuel + 1) style isFirst read builder) := by
  by_cases hFlow : style = .flow
  · subst hFlow
    exact hNodes.flowItems_succ isFirst read builder
  · rw [Builder.items]
    · split
      · next hNext =>
        have hClear : builder.IsClear := isClear_of_isNext hNext (by simp [TokenKind.isAlias])
        split
        · exact Keeps.error builder _ _
        · next rest hPass =>
          have hRest := hClear.pass rest hPass
          split
          · exact Keeps.error builder _ _
          · next hItem =>
            have hPassed := hRest.trans
              ((hNodes.nodeUnless _ _ _ _ _).passes hItem)
            exact (hNodes.items style isFirst _ _).later hPassed
      · split
        · exact Keeps.ok (Passes.refl builder) _
        · split
          · next hEnd => exact Keeps.ok (passes_drop_of_isNext rfl hEnd) _
          · exact keeps_reject builder
    · exact hFlow

private theorem keeps_key (hNodes : KeepsNodes fuel) (style : MappingStyle)
    (builder : Builder) :
    Keeps builder
      (if builder.isNext [.key] then
        match if (style == .block) = true then builder.pass else .ok builder.drop with
        | .error fault => (builder, .error fault)
        | .ok rest =>
          Builder.nodeUnless fuel style.keyEnds (style == .block) (style == .block)
            builder.stopMark rest
      else if builder.version.isModern && builder.isNext [.value] then
        builder.empty (if (style == .block) = true then builder.mark else builder.stopMark)
      else if (style == .block) = true then builder.reject
      else Builder.node fuel false false builder) := by
  split
  · next hNext =>
    have hClear : builder.IsClear := isClear_of_isNext hNext (by simp [TokenKind.isAlias])
    split
    · exact Keeps.error builder _ _
    · next rest hRest =>
      have hPassed : builder.Passes rest := by
        split at hRest
        · exact hClear.pass rest hRest
        · cases hRest
          exact hClear.drop
      exact (hNodes.nodeUnless _ _ _ _ _).later hPassed
  · split
    · exact keeps_empty _ builder
    · split
      · exact keeps_reject builder
      · exact hNodes.node false false builder

theorem KeepsNodes.entry_succ (hNodes : KeepsNodes fuel) (style : MappingStyle)
    (builder : Builder) : Keeps builder (Builder.entry (fuel + 1) style builder) := by
  have hKey := keeps_key hNodes style builder
  unfold Builder.entry
  dsimp only
  split
  · exact Keeps.error builder _ _
  · next rest key hResult =>
    have hPassed := hKey.passes hResult
    have hValue : Keeps rest (if !builder.isNext [.key, .value] then rest.empty rest.mark
        else Builder.value fuel style rest) := by
      split
      · exact keeps_empty _ rest
      · exact hNodes.value style _
    split
    · exact Keeps.error builder _ _
    · next hResult => exact Keeps.ok (hPassed.trans (hValue.passes hResult)) _

/-- The token that ends a mapping, if it has one of its own. -/
def MappingStyle.finish? : MappingStyle → Option TokenKind
  | .block => some .blockEnd
  | .flow => some .flowMappingEnd
  | .single => none

theorem MappingStyle.isClear_of_finish {style : MappingStyle} {other : Builder}
    (hNext : style.finish?.any (fun kind => other.isNext [kind]) = true) : other.IsClear := by
  cases style with
  | block => exact isClear_of_isNext hNext (by simp [TokenKind.isAlias])
  | flow => exact isClear_of_isNext hNext (by simp [TokenKind.isAlias])
  | single => cases hNext

theorem entries_succ_eq (fuel : Nat) (style : MappingStyle) (isFirst : Bool)
    (read : List (Node × Node)) (builder : Builder) :
    Builder.entries (fuel + 1) style isFirst read builder =
      if style.finish?.any fun kind => builder.isNext [kind] then
        match if style = .block then builder.pass else .ok builder.drop with
        | .error fault => (builder, .error fault)
        | .ok rest => (rest, .ok read.reverse)
      else if style = .single ∧ ¬isFirst then (builder, .ok read.reverse)
      else match if style = .flow then builder.dropComma? isFirst else some builder with
        | none => builder.reject
        | some builder =>
          if style.finish?.any fun kind => builder.isNext [kind] then
            (builder.drop, .ok read.reverse)
          else match Builder.entry fuel style builder with
            | (builder, .error fault) => (builder, .error fault)
            | (builder, .ok entry) =>
              Builder.entries fuel style false (entry :: read) builder := by
  rw [Builder.entries.eq_def]
  rfl

theorem KeepsNodes.entries_succ (hNodes : KeepsNodes fuel) (style : MappingStyle)
    (isFirst : Bool) (read : List (Node × Node)) (builder : Builder) :
    Keeps builder (Builder.entries (fuel + 1) style isFirst read builder) := by
  rw [entries_succ_eq]
  split
  · next hEnd =>
    have hClear := style.isClear_of_finish hEnd
    split
    · exact Keeps.error builder _ _
    · next rest hRest =>
      split at hRest
      · exact Keeps.ok (hClear.pass rest hRest) _
      · cases hRest
        exact Keeps.ok hClear.drop _
  · split
    · exact Keeps.ok (Passes.refl builder) _
    · split
      · exact keeps_reject builder
      · next rest hComma =>
        have hRest : builder.Passes rest := by
          split at hComma
          · exact passes_of_dropComma hComma
          · cases hComma
            exact Passes.refl builder
        split
        · next hEnd => exact Keeps.ok (hRest.trans (style.isClear_of_finish hEnd).drop) _
        · split
          · exact Keeps.error builder _ _
          · next hEntry =>
            have hPassed := hRest.trans
              ((hNodes.entry style _).passes hEntry)
            exact (hNodes.entries style false _ _).later hPassed

theorem keepsNodes (fuel : Nat) : KeepsNodes fuel := by
  -- The readers call each other with less fuel, so all of them go through together.
  induction fuel with
  | zero =>
      constructor
      case node => exact fun _ _ builder => keeps_reject builder
      case collection => exact fun _ _ _ start _ _ _ => Keeps.error start _ _
      case nodeUnless => exact fun _ _ _ _ builder => keeps_reject builder
      case items => exact fun _ _ _ builder => keeps_reject builder
      case value => exact fun _ builder => keeps_reject builder
      case entry => exact fun _ builder => keeps_reject builder
      case entries => exact fun _ _ _ builder => keeps_reject builder
  | succ fuel ih =>
      constructor
      case node => exact ih.node_succ
      case collection =>
        exact fun style _ tag _ _ hStart hAnchor => ih.collection_succ style tag hStart hAnchor
      case nodeUnless => exact ih.nodeUnless_succ
      case items => exact ih.items_succ
      case value => exact ih.value_succ
      case entry => exact ih.entry_succ
      case entries => exact ih.entries_succ

/-! ## Documents -/

theorem directives_passed (tokens : List Token) (hasVersion : Bool)
    (handles : List (String × String)) :
    Yields (fun read => ∃ passed, tokens.map Token.kind = passed ++ read.2.map Token.kind ∧
      ∀ kind ∈ passed, kind.isAlias = false) (directives tokens hasVersion handles) := by
  have hCons {content : Directive} {start stop : Mark} {comments : Comments}
      {rest : List Token} {result : Except Fault (List (String × String) × List Token)}
      (hRest : Yields (fun read => ∃ passed, rest.map Token.kind =
        passed ++ read.2.map Token.kind ∧ ∀ kind ∈ passed, kind.isAlias = false) result) :
      Yields (fun read => ∃ passed,
        (⟨.directive content, start, stop, comments⟩ :: rest : List Token).map Token.kind =
          passed ++ read.2.map Token.kind ∧ ∀ kind ∈ passed, kind.isAlias = false) result := by
    intro read hRead
    obtain ⟨passed, hKinds, hPassed⟩ := hRest read hRead
    refine ⟨.directive content :: passed, by simp [hKinds], ?_⟩
    simpa [TokenKind.isAlias] using hPassed
  fun_induction directives tokens hasVersion handles with
  | case1 => exact Yields.error _
  | case2 version start stop comments rest hasVersion handles hVersion ih => exact hCons ih
  | case3 => exact Yields.error _
  | case4 handle tagPrefix start stop comments rest hasVersion handles hNew ih => exact hCons ih
  | case5 start stop comments rest hasVersion handles ih => exact hCons ih
  | case6 rest hasVersion handles => exact Yields.ok ⟨[], rfl, by simp⟩

theorem keeps_documentContent (fuel : Nat) (builder : Builder) :
    Keeps builder (builder.documentContent fuel) := by
  unfold documentContent
  split
  · exact keeps_empty _ builder
  · exact (keepsNodes fuel).node true false builder

theorem keeps_explicitDocument (fuel : Nat) (builder : Builder) :
    Keeps builder (builder.explicitDocument fuel) := by
  unfold explicitDocument
  split
  · exact Keeps.error builder _ _
  · next handles tokens hDirectives =>
    obtain ⟨passed, hKinds, hPassed⟩ := directives_passed _ _ _ _ hDirectives
    dsimp only
    split
    · next hNext =>
      have hStart : builder.Passes
          { builder with tokens := tokens, handles := handles ++ usualHandles } :=
        ⟨passed, hKinds, fun _ => ⟨rfl, hPassed⟩⟩
      have hContent := hStart.trans (passes_drop_of_isNext rfl hNext)
      exact (keeps_documentContent fuel _).later hContent
    · exact Keeps.error builder _ _

theorem passes_streamEnd {value : Unit} {after : Builder}
    (hEnd : builder.streamEnd = (after, .ok value)) :
    builder.Passes after ∧ after.isNext [.streamEnd] = true := by
  have hRest : builder.Passes (if builder.version.isModern then
      if builder.isNext [.documentEnd] then builder.drop else builder
      else { builder with
        tokens := builder.tokens.dropWhile fun token => token.kind == .documentEnd }) := by
    split
    · split
      · next hNext => exact passes_drop_of_isNext rfl hNext
      · exact Passes.refl builder
    · refine ⟨(builder.tokens.takeWhile fun token =>
        token.kind == .documentEnd).map Token.kind, ?_, fun _ => ⟨rfl, ?_⟩⟩
      · simp only [kinds]
        rw [← List.map_append, List.takeWhile_append_dropWhile]
      · intro kind hKind
        obtain ⟨token, hToken, rfl⟩ := List.mem_map.1 hKind
        have hDocument := List.all_eq_true.1 List.all_takeWhile token hToken
        rw [beq_iff_eq] at hDocument
        rw [hDocument]
        rfl
  unfold streamEnd at hEnd
  extract_lets rest at hEnd
  split at hEnd
  · next hNext =>
    obtain ⟨hAfter, -⟩ := Prod.mk.inj hEnd
    rw [← hAfter]
    exact ⟨hRest, hNext⟩
  · have hResult := congrArg Prod.snd hEnd
    cases hResult

/-- The tokens of a document are passed up to the end of the stream.  Without anchors,
none of them is an alias. -/
theorem document_passes {after : Builder} {root : Option Node}
    (hDocument : builder.document fuel = (after, .ok root)) :
    ∃ passed rest, builder.kinds = passed ++ .streamEnd :: rest ∧
      (builder.IsQuiet → ∀ kind ∈ passed, kind.isAlias = false) := by
  unfold document at hDocument
  split at hDocument
  · cases hDocument
  · next hKind =>
    rw [kind?_eq_head?] at hKind
    obtain ⟨rest, hRest⟩ := List.head?_eq_some_iff.1 hKind
    exact ⟨[], rest, hRest, fun _ => by simp⟩
  · next kind _ _ =>
    extract_lets starts at hDocument
    have hRoot : Keeps builder (if starts then builder.explicitDocument fuel
        else ({ builder with handles := usualHandles }).node fuel true false) := by
      split
      · exact keeps_explicitDocument fuel builder
      · have hHandles : builder.Passes { builder with handles := usualHandles } :=
          Passes.same rfl rfl
        exact ((keepsNodes fuel).node true false _).later hHandles
    generalize (if starts then builder.explicitDocument fuel
      else ({ builder with handles := usualHandles }).node fuel true false) = part
      at hDocument hRoot
    obtain ⟨middle, result⟩ := part
    cases result with
    | error fault => cases hDocument
    | ok node =>
        have hMiddle := hRoot.passes rfl
        dsimp only at hDocument
        split at hDocument
        · cases hDocument
        · next ended _ hEnd =>
          obtain ⟨hEnded, hNext⟩ := passes_streamEnd hEnd
          obtain ⟨passed, hKinds, hPassed⟩ := hMiddle.trans hEnded
          have hHead : ended.kinds.head? = some .streamEnd := by
            rw [← kind?_eq_head?]
            exact kind?_of_isNext hNext
          obtain ⟨rest, hRest⟩ := List.head?_eq_some_iff.1 hHead
          exact ⟨passed, rest, by rw [hKinds, hRest], fun hQuiet => (hPassed hQuiet).2⟩

end

end Builder

/-! ## Trees of texts -/

namespace TokenStream

def HasNoAnchors (stream : TokenStream) : Prop :=
  ∀ token ∈ stream.tokens, token.kind.isAnchor = false ∧ token.kind.isAlias = false

variable {content : List Char} {stream : TokenStream}

/-- The end of a stream is its last token, and a stream that has one has no fault. -/
theorem IsPlaced.eq_of_streamEnd (hPlaced : stream.IsPlaced content)
    {passed rest : List TokenKind}
    (hKinds : stream.tokens.map Token.kind = passed ++ .streamEnd :: rest) :
    rest = [] ∧ stream.fault = none := by
  obtain ⟨before, last, hPlaces, hBefore, hLast⟩ := hPlaced
  have hFirst : stream.tokens.map Token.kind = before.map Prod.fst ++ last.map Prod.fst := by
    rw [← List.map_append, ← hPlaces, List.map_map]
    rfl
  have hNever : TokenKind.streamEnd ∉ before.map Prod.fst := by
    intro hMem
    obtain ⟨place, hPlace, hKind⟩ := List.mem_map.1 hMem
    exact (hBefore place hPlace).kind_ne_end hKind
  rw [hFirst] at hKinds
  rcases hLast with rfl | ⟨hFault, mark, rfl⟩
  · rw [List.map_nil, List.append_nil] at hKinds
    exact absurd (by rw [hKinds]; simp) hNever
  · refine ⟨?_, hFault⟩
    -- The end that is found is not among the earlier tokens, so it is the last one.
    rcases List.append_eq_append_iff.1 hKinds with ⟨middle, -, hRest⟩ | ⟨middle, hMiddle, hRest⟩
    · cases middle with
      | nil => simpa using hRest.symm
      | cons kind middle => simp at hRest
    · cases middle with
      | nil => simpa using hRest
      | cons kind middle =>
          rw [List.cons_append, List.cons.injEq] at hRest
          rw [hMiddle, ← hRest.1] at hNever
          simp at hNever

end TokenStream

/-- The tokens of a text that makes a tree are all of its tokens, and an alias among them
needs an anchor. -/
theorem NodeTree.tokens_of_ofText {maxDepth : Nat} {state after : LoaderState}
    {content : List Char} {tree : NodeTree} (hState : state.anchors = [])
    (hTree : NodeTree.ofText maxDepth state content = (after, .ok tree)) :
    (TokenStream.ofText state.version content).fault = none ∧
      ((∀ token ∈ (TokenStream.ofText state.version content).tokens,
        token.kind.isAnchor = false) →
          (TokenStream.ofText state.version content).HasNoAnchors) := by
  have hPlaced := TokenStream.isPlaced_ofText state.version content
  unfold NodeTree.ofText at hTree
  generalize TokenStream.ofText state.version content = stream at hTree hPlaced
  extract_lets other builder at hTree
  cases hDocument : builder.document (4 * stream.tokens.length + 8) with
  | mk last result =>
      cases result with
      | error fault =>
          rw [show other = stream from rfl, hDocument] at hTree
          cases hTree
      | ok root =>
          obtain ⟨passed, rest, hKinds, hFree⟩ := Builder.document_passes hDocument
          obtain ⟨rfl, hFault⟩ := hPlaced.eq_of_streamEnd hKinds
          refine ⟨hFault, fun hAnchors token hToken => ⟨hAnchors token hToken, ?_⟩⟩
          have hQuiet : builder.IsQuiet := by
            refine ⟨hState, fun kind hKind => ?_⟩
            obtain ⟨other, hOther, rfl⟩ := List.mem_map.1 hKind
            exact hAnchors other hOther
          have hMem : token.kind ∈ builder.kinds := List.mem_map_of_mem hToken
          rw [hKinds] at hMem
          rcases List.mem_append.1 hMem with hPassed | hEnd
          · exact hFree hQuiet _ hPassed
          · rw [List.mem_singleton.1 hEnd]
            rfl

end SqlDialects.Yaml
