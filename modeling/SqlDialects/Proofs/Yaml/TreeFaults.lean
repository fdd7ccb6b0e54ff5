import SqlDialects.Proofs.Yaml.Aliases
import SqlDialects.Proofs.Yaml.TokenFaults

/-!
# Faults of trees

The readers of nodes fail early too (`NodeTree.failsEarly_ofText`).  One that fails leaves
the collections open that it was in, and one that succeeds has closed what it opened.
-/

namespace SqlDialects.Yaml

namespace Builder

/-! ## Moving over tokens -/

/-- Nothing but the tokens has changed. -/
def MovesTo (builder after : Builder) : Prop :=
  after = { builder with tokens := after.tokens }

section

variable {builder middle after : Builder}

theorem MovesTo.refl (builder : Builder) : builder.MovesTo builder := rfl

theorem MovesTo.trans (hFirst : builder.MovesTo middle) (hSecond : middle.MovesTo after) :
    builder.MovesTo after := by
  unfold MovesTo at hFirst hSecond ⊢
  rw [hSecond, hFirst]

theorem MovesTo.fault_eq (hAfter : builder.MovesTo after) : after.fault = builder.fault := by
  rw [hAfter]

theorem MovesTo.depth_eq (hAfter : builder.MovesTo after) : after.depth = builder.depth := by
  rw [hAfter]

theorem MovesTo.anchors_eq (hAfter : builder.MovesTo after) :
    after.anchors = builder.anchors := by
  rw [hAfter]

theorem movesTo_drop (builder : Builder) : builder.MovesTo builder.drop := rfl

theorem movesTo_mapComments (change : Comments → Comments) (builder : Builder) :
    builder.MovesTo (builder.mapComments change) := by
  unfold mapComments
  split <;> rfl

@[simp] theorem failsEarly_pass (builder : Builder) : FailsEarly builder.pass := by
  unfold pass
  split
  · simp only [failsAs_ite, failsAs_ok, failsAs_error, implies_true, true_and, and_true]
    exact fun _ hOverlap => .overlappingComments hOverlap
  · simp

theorem movesTo_pass (builder : Builder) : Yields builder.MovesTo builder.pass := by
  unfold pass
  split
  · refine Yields.ite (fun _ => Yields.ok (movesTo_drop builder)) fun _ => ?_
    refine Yields.ite (fun _ => Yields.error _) fun _ => Yields.ok ?_
    exact (movesTo_drop builder).trans (movesTo_mapComments _ _)
  · exact Yields.ok (movesTo_drop builder)

@[simp] theorem failsEarly_passValue (builder : Builder) : FailsEarly builder.passValue := by
  unfold passValue
  split <;> simp

theorem movesTo_passValue (builder : Builder) : Yields builder.MovesTo builder.passValue := by
  have hComment : Yields builder.MovesTo (builder.pass.map dropCommentAfter) :=
    Yields.map fun rest hRest => (movesTo_pass builder rest hRest).trans (movesTo_mapComments _ _)
  unfold passValue
  split
  · exact Yields.ok (movesTo_drop builder)
  · exact hComment
  · exact hComment
  · exact movesTo_pass builder

@[simp] theorem failsEarly_properties (builder : Builder) : FailsEarly builder.properties := by
  unfold properties
  dsimp only
  split
  · simp only [failsAs_bind, failsEarly_pass, true_and]
    intro rest hRest
    split <;> simp
  · split <;> simp
  · simp

theorem movesTo_properties (builder : Builder) :
    Yields (fun read => builder.MovesTo read.2) builder.properties := by
  unfold properties
  dsimp only
  split
  · refine Yields.bind fun rest hPass => ?_
    have hRest := movesTo_pass builder rest hPass
    split
    · exact Yields.ok (hRest.trans (movesTo_drop rest))
    · exact Yields.ok hRest
  · have hRest : builder.MovesTo (builder.pass.toOption.getD builder.drop) := by
      cases hPass : builder.pass with
      | error fault => exact movesTo_drop builder
      | ok rest => exact movesTo_pass builder rest hPass
    split
    · exact Yields.ok (hRest.trans (movesTo_drop _))
    · exact Yields.ok hRest
  · exact Yields.ok (MovesTo.refl builder)

@[simp] theorem failsEarly_namedTag (builder : Builder) (properties : Properties) :
    FailsEarly (builder.namedTag properties) := by
  unfold namedTag
  split
  · simp
  · simp
  · simp
  · split <;> simp

theorem movesTo_of_collection {inBlock indentless : Bool} {style : CollectionStyle}
    (hStart : builder.collection? inBlock indentless = some (style, after)) :
    builder.MovesTo after := by
  unfold collection? at hStart
  repeat' split at hStart
  all_goals cases hStart
  all_goals first | exact movesTo_drop builder | exact movesTo_mapComments _ builder

theorem movesTo_of_dropComma {isFirst : Bool} (hComma : builder.dropComma? isFirst = some after) :
    builder.MovesTo after := by
  unfold dropComma? at hComma
  repeat' split at hComma
  all_goals cases hComma
  · exact MovesTo.refl builder
  · exact movesTo_drop builder

end

/-! ## Single nodes -/

/-- The state before a reader of nodes, with the number of collections that are open. -/
structure IsAt (depth : Nat) (builder : Builder) : Prop where
  fault : builder.fault.IsEarly
  depth : builder.depth = depth

/-- A reader of nodes finds faults early, and so does what is left for the next one.  It
never closes a collection that it has not opened, and if it succeeds it leaves none open. -/
structure FindsEarly {α : Type} (depth : Nat) (result : Builder × Except Fault α) : Prop where
  fault : result.1.fault.IsEarly
  early : FailsEarly result.2
  opens : depth ≤ result.1.depth
  closes : ∀ value, result.2 = .ok value → result.1.depth = depth

section

variable {α : Type} {depth : Nat} {builder after : Builder}

theorem IsAt.congr (hBuilder : builder.IsAt depth) (hFault : after.fault = builder.fault)
    (hDepth : after.depth = builder.depth) : after.IsAt depth :=
  ⟨by rw [hFault]; exact hBuilder.fault, hDepth.trans hBuilder.depth⟩

theorem IsAt.move (hBuilder : builder.IsAt depth) (hAfter : builder.MovesTo after) :
    after.IsAt depth :=
  hBuilder.congr hAfter.fault_eq hAfter.depth_eq

theorem findsEarly_error {fault : Fault} (hBuilder : builder.IsAt depth)
    (hFault : fault.IsEarly) :
    FindsEarly depth ((builder, .error fault) : Builder × Except Fault α) where
  fault := hBuilder.fault
  early := by simpa using hFault
  opens := Nat.le_of_eq hBuilder.depth.symm
  closes := by simp

theorem findsEarly_ok (hBuilder : builder.IsAt depth) (value : α) :
    FindsEarly depth (builder, .ok value) where
  fault := hBuilder.fault
  early := by simp
  opens := Nat.le_of_eq hBuilder.depth.symm
  closes := fun _ _ => hBuilder.depth

theorem findsEarly_reject (hBuilder : builder.IsAt depth) :
    FindsEarly depth (builder.reject : Builder × Except Fault α) := by
  refine findsEarly_error hBuilder ?_
  split
  · exact hBuilder.fault
  · exact .malformed

theorem IsAt.drop (hBuilder : builder.IsAt depth) : builder.drop.IsAt depth :=
  hBuilder.move (movesTo_drop builder)

theorem IsAt.declare (hBuilder : builder.IsAt depth) (anchor : Option String) :
    (builder.declare anchor).2.IsAt depth := by
  cases anchor <;> exact hBuilder.congr rfl rfl

theorem IsAt.define (hBuilder : builder.IsAt depth) (target : Option Nat) (node : Node) :
    (builder.define target node).IsAt depth := by
  cases target <;> exact hBuilder.congr rfl rfl

theorem isKnown_of_plainTag? {version : Version} {content : List Char}
    (hTag : plainTag? version content = none) : version.isKnown = false := by
  unfold plainTag? at hTag
  split at hTag
  · next hKnown => simpa using hKnown
  · repeat' split at hTag
    all_goals cases hTag

theorem findsEarly_scalar (hBuilder : builder.IsAt depth) (properties : Properties)
    (tag : Option Tag) (style : ScalarStyle) (content : Text.Points) :
    FindsEarly depth (builder.scalar properties tag style content) := by
  unfold scalar
  dsimp only
  split
  · next fault hFault =>
    refine findsEarly_error hBuilder ?_
    split at hFault
    · cases hFault
    · split at hFault
      · split at hFault
        · cases hFault
        · next hTag =>
          cases hFault
          exact .unknownVersion (isKnown_of_plainTag? hTag)
      · cases hFault
  · exact findsEarly_ok ((hBuilder.declare _).define _ _) _

theorem findsEarly_empty (hBuilder : builder.IsAt depth) (mark : Mark) :
    FindsEarly depth (builder.empty mark) :=
  findsEarly_scalar hBuilder _ none .plain ""

theorem findsEarly_emptyOrReject (hBuilder : builder.IsAt depth) (properties : Properties)
    (tag : Option Tag) : FindsEarly depth (builder.emptyOrReject properties tag) := by
  unfold emptyOrReject
  split
  · exact findsEarly_reject hBuilder
  · split
    · exact findsEarly_scalar hBuilder properties tag .plain ""
    · exact findsEarly_reject hBuilder

/-- One more collection is open after a start, also if that is one too many. -/
theorem findsEarly_enter (hBuilder : builder.IsAt depth) :
    FindsEarly (depth + 1) builder.enter := by
  have hEntered : { builder with depth := builder.depth + 1 }.IsAt (depth + 1) :=
    ⟨hBuilder.fault, by simp [hBuilder.depth]⟩
  unfold enter
  dsimp only
  split
  · exact findsEarly_error hEntered .malformed
  · exact findsEarly_ok hEntered ()

theorem IsAt.leave (hBuilder : builder.IsAt (depth + 1)) : builder.leave.IsAt depth :=
  ⟨hBuilder.fault, by simp [Builder.leave, hBuilder.depth]⟩

end

/-! ## Readers of nodes -/

/-- What the readers of nodes find with a given fuel, one field for each of them. -/
structure FindsNodes (fuel : Nat) : Prop where
  node : ∀ (inBlock indentless : Bool) {depth : Nat} {builder : Builder}, builder.IsAt depth →
    FindsEarly depth (node fuel inBlock indentless builder)
  collection : ∀ (style : CollectionStyle) (properties : Properties) (tag : Option Tag)
    {depth : Nat} {builder : Builder}, builder.IsAt depth →
      FindsEarly depth (collection fuel style properties tag builder)
  nodeUnless : ∀ (ends : List TokenKind) (inBlock indentless : Bool) (mark : Mark)
    {depth : Nat} {builder : Builder}, builder.IsAt depth →
      FindsEarly depth (nodeUnless fuel ends inBlock indentless mark builder)
  items : ∀ (style : SequenceStyle) (isFirst : Bool) (read : List Node) {depth : Nat}
    {builder : Builder}, builder.IsAt depth →
      FindsEarly depth (items fuel style isFirst read builder)
  value : ∀ (style : MappingStyle) {depth : Nat} {builder : Builder}, builder.IsAt depth →
    FindsEarly depth (value fuel style builder)
  entry : ∀ (style : MappingStyle) {depth : Nat} {builder : Builder}, builder.IsAt depth →
    FindsEarly depth (entry fuel style builder)
  entries : ∀ (style : MappingStyle) (isFirst : Bool) (read : List (Node × Node)) {depth : Nat}
    {builder : Builder}, builder.IsAt depth →
      FindsEarly depth (entries fuel style isFirst read builder)

section

variable {fuel depth : Nat} {builder : Builder}

theorem FindsEarly.of_error {α β : Type} {result : Builder × Except Fault α} {after : Builder}
    {fault : Fault} (hResult : FindsEarly depth result) (hError : result = (after, .error fault)) :
    FindsEarly depth ((after, .error fault) : Builder × Except Fault β) := by
  subst hError
  exact ⟨hResult.fault, by simpa using hResult.early, hResult.opens, by simp⟩

theorem FindsEarly.of_inside {α β : Type} {result : Builder × Except Fault α} {after : Builder}
    {fault : Fault} (hResult : FindsEarly (depth + 1) result)
    (hError : result = (after, .error fault)) :
    FindsEarly depth ((after, .error fault) : Builder × Except Fault β) := by
  subst hError
  exact ⟨hResult.fault, by simpa using hResult.early, Nat.le_of_succ_le hResult.opens, by simp⟩

theorem FindsEarly.isAt {α : Type} {result : Builder × Except Fault α} {after : Builder}
    {value : α} (hResult : FindsEarly depth result) (hOk : result = (after, .ok value)) :
    after.IsAt depth := by
  subst hOk
  exact ⟨hResult.fault, hResult.closes value rfl⟩

theorem FindsNodes.node_succ (hNodes : FindsNodes fuel) (inBlock indentless : Bool)
    (hBuilder : builder.IsAt depth) :
    FindsEarly depth (Builder.node (fuel + 1) inBlock indentless builder) := by
  unfold Builder.node
  split
  · split
    · exact findsEarly_ok hBuilder.drop _
    · exact findsEarly_reject hBuilder
  · split
    · next fault hFault => exact findsEarly_error hBuilder (failsEarly_properties _ _ hFault)
    · next properties rest hProperties =>
      have hRest := hBuilder.move (movesTo_properties builder _ hProperties)
      split
      · next fault hFault => exact findsEarly_error hRest (failsEarly_namedTag _ _ _ hFault)
      · split
        · exact findsEarly_scalar hRest.drop _ _ _ _
        · next style start hStart _ =>
          exact hNodes.collection style _ _ (hRest.move (movesTo_of_collection hStart))
        · exact findsEarly_emptyOrReject hRest _ _

theorem FindsNodes.nodeUnless_succ (hNodes : FindsNodes fuel) (ends : List TokenKind)
    (inBlock indentless : Bool) (mark : Mark) (hBuilder : builder.IsAt depth) :
    FindsEarly depth (Builder.nodeUnless (fuel + 1) ends inBlock indentless mark builder) := by
  unfold Builder.nodeUnless
  split
  · exact findsEarly_empty hBuilder mark
  · exact hNodes.node inBlock indentless hBuilder

theorem FindsNodes.collection_succ (hNodes : FindsNodes fuel) (style : CollectionStyle)
    (properties : Properties) (tag : Option Tag) (hBuilder : builder.IsAt depth) :
    FindsEarly depth (Builder.collection (fuel + 1) style properties tag builder) := by
  unfold Builder.collection
  split
  · next hEnter => exact (findsEarly_enter hBuilder).of_inside hEnter
  · next entered _ hEnter =>
    have hDeclared := ((findsEarly_enter hBuilder).isAt hEnter).declare properties.anchor
    generalize entered.declare properties.anchor = declared at hDeclared
    obtain ⟨target, inside⟩ := declared
    cases style with
    | sequence style =>
        have hItems := hNodes.items style true [] hDeclared
        dsimp only at hItems ⊢
        generalize Builder.items fuel style true [] inside = part at hItems
        obtain ⟨rest, result⟩ := part
        cases result with
        | error fault => exact hItems.of_inside rfl
        | ok read => exact findsEarly_ok ((hItems.isAt rfl).leave.define _ _) _
    | mapping style =>
        have hEntries := hNodes.entries style true [] hDeclared
        dsimp only at hEntries ⊢
        generalize Builder.entries fuel style true [] inside = part at hEntries
        obtain ⟨rest, result⟩ := part
        cases result with
        | error fault => exact hEntries.of_inside rfl
        | ok read => exact findsEarly_ok ((hEntries.isAt rfl).leave.define _ _) _

theorem FindsNodes.value_succ (hNodes : FindsNodes fuel) (style : MappingStyle)
    (hBuilder : builder.IsAt depth) :
    FindsEarly depth (Builder.value (fuel + 1) style builder) := by
  unfold Builder.value
  dsimp only
  split
  · split
    · next fault hFault =>
      refine findsEarly_error hBuilder ?_
      split at hFault
      · exact failsEarly_passValue _ _ hFault
      · cases hFault
    · next rest hRest =>
      refine hNodes.nodeUnless _ _ _ _ ?_
      split at hRest
      · exact hBuilder.move (movesTo_passValue builder rest hRest)
      · cases hRest
        exact hBuilder.drop
  · exact findsEarly_empty hBuilder _

theorem FindsNodes.flowItems_succ (hNodes : FindsNodes fuel) (isFirst : Bool) (read : List Node)
    (hBuilder : builder.IsAt depth) :
    FindsEarly depth (Builder.items (fuel + 1) .flow isFirst read builder) := by
  unfold Builder.items
  split
  · exact findsEarly_ok hBuilder.drop _
  · split
    · exact findsEarly_reject hBuilder
    · next rest hComma =>
      have hRest := hBuilder.move (movesTo_of_dropComma hComma)
      split
      · exact findsEarly_ok hRest.drop _
      · have hItem : FindsEarly depth (if rest.isNext [.key] then
            Builder.collection fuel (.mapping .single) ⟨none, none, rest.mark⟩ none rest
            else Builder.node fuel false false rest) := by
          split
          · exact hNodes.collection _ _ none hRest
          · exact hNodes.node false false hRest
        dsimp only
        split
        · next hError => exact hItem.of_error hError
        · next hOk => exact hNodes.items .flow false _ (hItem.isAt hOk)

theorem FindsNodes.items_succ (hNodes : FindsNodes fuel) (style : SequenceStyle)
    (isFirst : Bool) (read : List Node) (hBuilder : builder.IsAt depth) :
    FindsEarly depth (Builder.items (fuel + 1) style isFirst read builder) := by
  by_cases hFlow : style = .flow
  · subst hFlow
    exact hNodes.flowItems_succ isFirst read hBuilder
  · rw [Builder.items]
    · split
      · split
        · next fault hFault => exact findsEarly_error hBuilder (failsEarly_pass _ _ hFault)
        · next rest hPass =>
          have hItem := hNodes.nodeUnless style.gapEnds true false builder.stopMark
            (hBuilder.move (movesTo_pass builder rest hPass))
          split
          · next hError => exact hItem.of_error hError
          · next hOk => exact hNodes.items style isFirst _ (hItem.isAt hOk)
      · split
        · exact findsEarly_ok hBuilder _
        · split
          · exact findsEarly_ok hBuilder.drop _
          · exact findsEarly_reject hBuilder
    · exact hFlow

private theorem findsEarly_key (hNodes : FindsNodes fuel) (style : MappingStyle)
    (hBuilder : builder.IsAt depth) :
    FindsEarly depth
      (if builder.isNext [.key] then
        match if (style == .block) = true then builder.pass else .ok builder.drop with
        | .error fault => (builder, .error fault)
        | .ok rest =>
          Builder.nodeUnless fuel style.keyEnds (style == .block) (style == .block)
            builder.stopMark rest
      else if builder.version.isModern && builder.isNext [.value] then
        builder.empty (if (style == .block) = true then builder.mark else builder.stopMark)
      else if (style == .block) = true then builder.reject
      else Builder.node fuel false false builder) := by
  split
  · split
    · next fault hFault =>
      refine findsEarly_error hBuilder ?_
      split at hFault
      · exact failsEarly_pass _ _ hFault
      · cases hFault
    · next rest hRest =>
      refine hNodes.nodeUnless _ _ _ _ ?_
      split at hRest
      · exact hBuilder.move (movesTo_pass builder rest hRest)
      · cases hRest
        exact hBuilder.drop
  · split
    · exact findsEarly_empty hBuilder _
    · split
      · exact findsEarly_reject hBuilder
      · exact hNodes.node false false hBuilder

theorem FindsNodes.entry_succ (hNodes : FindsNodes fuel) (style : MappingStyle)
    (hBuilder : builder.IsAt depth) :
    FindsEarly depth (Builder.entry (fuel + 1) style builder) := by
  have hKey := findsEarly_key hNodes style hBuilder
  unfold Builder.entry
  dsimp only
  split
  · next hError => exact hKey.of_error hError
  · next rest key hOk =>
    have hRest := hKey.isAt hOk
    have hValue : FindsEarly depth (if !builder.isNext [.key, .value] then rest.empty rest.mark
        else Builder.value fuel style rest) := by
      split
      · exact findsEarly_empty hRest _
      · exact hNodes.value style hRest
    split
    · next hError => exact hValue.of_error hError
    · next hOk => exact findsEarly_ok (hValue.isAt hOk) _

theorem FindsNodes.entries_succ (hNodes : FindsNodes fuel) (style : MappingStyle)
    (isFirst : Bool) (read : List (Node × Node)) (hBuilder : builder.IsAt depth) :
    FindsEarly depth (Builder.entries (fuel + 1) style isFirst read builder) := by
  rw [entries_succ_eq]
  split
  · split
    · next fault hFault =>
      refine findsEarly_error hBuilder ?_
      split at hFault
      · exact failsEarly_pass _ _ hFault
      · cases hFault
    · next rest hRest =>
      split at hRest
      · exact findsEarly_ok (hBuilder.move (movesTo_pass builder rest hRest)) _
      · cases hRest
        exact findsEarly_ok hBuilder.drop _
  · split
    · exact findsEarly_ok hBuilder _
    · split
      · exact findsEarly_reject hBuilder
      · next rest hComma =>
        have hRest : rest.IsAt depth := by
          split at hComma
          · exact hBuilder.move (movesTo_of_dropComma hComma)
          · cases hComma
            exact hBuilder
        split
        · exact findsEarly_ok hRest.drop _
        · have hEntry := hNodes.entry style hRest
          split
          · next hError => exact hEntry.of_error hError
          · next hOk => exact hNodes.entries style false _ (hEntry.isAt hOk)

theorem findsNodes (fuel : Nat) : FindsNodes fuel := by
  induction fuel with
  | zero =>
      constructor
      case node => exact fun _ _ _ _ hBuilder => findsEarly_reject hBuilder
      case collection => exact fun _ _ _ _ _ hBuilder => findsEarly_reject hBuilder
      case nodeUnless => exact fun _ _ _ _ _ _ hBuilder => findsEarly_reject hBuilder
      case items => exact fun _ _ _ _ _ hBuilder => findsEarly_reject hBuilder
      case value => exact fun _ _ _ hBuilder => findsEarly_reject hBuilder
      case entry => exact fun _ _ _ hBuilder => findsEarly_reject hBuilder
      case entries => exact fun _ _ _ _ _ hBuilder => findsEarly_reject hBuilder
  | succ fuel ih =>
      constructor
      case node => exact fun _ _ _ _ => ih.node_succ _ _
      case collection => exact fun _ _ _ _ _ => ih.collection_succ _ _ _
      case nodeUnless => exact fun _ _ _ _ _ _ => ih.nodeUnless_succ _ _ _ _
      case items => exact fun _ _ _ _ _ => ih.items_succ _ _ _
      case value => exact fun _ _ _ => ih.value_succ _
      case entry => exact fun _ _ _ => ih.entry_succ _
      case entries => exact fun _ _ _ _ _ => ih.entries_succ _ _ _

/-! ## Documents -/

@[simp] theorem failsEarly_directives (tokens : List Token) (hasVersion : Bool)
    (handles : List (String × String)) : FailsEarly (directives tokens hasVersion handles) := by
  fun_induction directives tokens hasVersion handles <;> simp_all

theorem findsEarly_document (hBuilder : builder.IsAt depth) :
    FindsEarly depth (builder.document fuel) := by
  unfold document
  split
  · exact findsEarly_reject hBuilder
  · exact findsEarly_ok hBuilder _
  · next kind _ _ =>
    extract_lets starts
    have hContent (inside : Builder) (hInside : inside.IsAt depth) :
        FindsEarly depth (inside.documentContent fuel) := by
      unfold documentContent
      split
      · exact findsEarly_empty hInside _
      · exact (findsNodes fuel).node true false hInside
    have hRoot : FindsEarly depth (if starts then builder.explicitDocument fuel
        else ({ builder with handles := usualHandles }).node fuel true false) := by
      split
      · unfold explicitDocument
        split
        · next fault hFault =>
          exact findsEarly_error hBuilder (failsEarly_directives _ _ _ _ hFault)
        · dsimp only
          split
          · exact hContent _ (hBuilder.congr rfl rfl)
          · exact findsEarly_reject (hBuilder.congr rfl rfl)
      · exact (findsNodes fuel).node true false (hBuilder.congr rfl rfl)
    generalize (if starts then builder.explicitDocument fuel
      else ({ builder with handles := usualHandles }).node fuel true false) = part at hRoot
    obtain ⟨middle, result⟩ := part
    cases result with
    | error fault => exact hRoot.of_error rfl
    | ok node =>
        have hEnd : FindsEarly depth middle.streamEnd := by
          have hMiddle := hRoot.isAt rfl
          unfold streamEnd
          extract_lets rest
          have hRest : rest.IsAt depth := by
            show IsAt depth (if _ then _ else _)
            split
            · split
              · exact hMiddle.drop
              · exact hMiddle
            · exact hMiddle.congr rfl rfl
          split
          · exact findsEarly_ok hRest ()
          · exact findsEarly_reject hRest
        dsimp only
        split
        · next ended fault hError =>
          rw [hError] at hEnd
          exact ⟨hEnd.fault, by simpa using hEnd.early, hEnd.opens, by simp⟩
        · next hOk =>
          refine findsEarly_ok ?_ _
          exact (hEnd.isAt hOk).congr rfl rfl

end

/-- The state in which a document is read. -/
def start (maxDepth : Nat) (state : LoaderState) (stream : TokenStream) : Builder where
  tokens := stream.tokens
  fault := stream.fault.getD .malformed
  version := stream.version
  maxDepth := maxDepth
  depth := state.openDepth
  anchors := state.anchors
  nodes := state.nodes

theorem isAt_start (maxDepth : Nat) (state : LoaderState) (content : List Char) :
    (start maxDepth state (TokenStream.ofText state.version content)).IsAt state.openDepth := by
  refine ⟨?_, rfl⟩
  show Fault.IsEarly ((TokenStream.ofText state.version content).fault.getD .malformed)
  cases hFault : (TokenStream.ofText state.version content).fault with
  | none => exact .malformed
  | some fault => exact TokenStream.isEarly_of_ofText hFault

end Builder

namespace NodeTree

variable (maxDepth : Nat) (state : LoaderState) (content : List Char)

/-- How the document of a text is read. -/
def reading : Builder × Except Fault (Option Node) :=
  let stream := TokenStream.ofText state.version content
  (Builder.start maxDepth state stream).document (4 * stream.tokens.length + 8)

theorem ofText_eq :
    ofText maxDepth state content =
      ({ version := (TokenStream.ofText state.version content).version
         openDepth := (reading maxDepth state content).1.depth
         anchors := (reading maxDepth state content).1.anchors
         nodes :=
          if (reading maxDepth state content).1.anchors.isEmpty then #[]
          else (reading maxDepth state content).1.nodes },
        (reading maxDepth state content).2.map fun root =>
          ⟨root, (reading maxDepth state content).1.nodes, state.nodes.size,
            (TokenStream.ofText state.version content).version⟩) :=
  rfl

theorem findsEarly_reading :
    Builder.FindsEarly state.openDepth (reading maxDepth state content) :=
  Builder.findsEarly_document (Builder.isAt_start maxDepth state content)

/-- A text makes a tree, or what is wrong with it is found early. -/
theorem failsEarly_ofText : FailsEarly (ofText maxDepth state content).2 := by
  rw [ofText_eq]
  simpa using (findsEarly_reading maxDepth state content).early

theorem openDepth_ofText : state.openDepth ≤ (ofText maxDepth state content).1.openDepth :=
  (findsEarly_reading maxDepth state content).opens

end NodeTree

end SqlDialects.Yaml
