import SqlDialects.Proofs.Yaml.TreeFaults

/-!
# What documents leave

A loader keeps the version of a document, the collections that were open where it failed,
and its anchors.  Anchors are left together with open collections only, so a loader that has
neither an old version nor open collections is like a new one (`LoaderState.IsTidy.eq_new`).
-/

namespace SqlDialects.Yaml

namespace Builder

/-- Where a reader fails, it has declared nothing or it leaves a collection open. -/
def DeclaresInside {α : Type} (builder : Builder) (result : Builder × Except Fault α) : Prop :=
  ∀ fault, result.2 = .error fault →
    result.1.anchors = builder.anchors ∨ builder.depth < result.1.depth

section

variable {α : Type} {fuel : Nat} {builder after : Builder}

theorem declaresInside_error (hAnchors : after.anchors = builder.anchors) (fault : Fault) :
    DeclaresInside builder ((after, .error fault) : Builder × Except Fault α) :=
  fun _ _ => .inl hAnchors

theorem declaresInside_ok (after : Builder) (value : α) :
    DeclaresInside builder (after, .ok value) := by
  intro fault hFault
  cases hFault

theorem DeclaresInside.later {result : Builder × Except Fault α} (hAfter : builder.MovesTo after)
    (hResult : DeclaresInside after result) : DeclaresInside builder result := by
  intro fault hFault
  rw [← hAfter.anchors_eq, ← hAfter.depth_eq]
  exact hResult fault hFault

theorem declaresInside_scalar (properties : Properties) (tag : Option Tag) (style : ScalarStyle)
    (content : Text.Points) (builder : Builder) :
    DeclaresInside builder (builder.scalar properties tag style content) := by
  unfold scalar
  dsimp only
  split
  · exact declaresInside_error rfl _
  · exact declaresInside_ok _ _

theorem declaresInside_emptyOrReject (properties : Properties) (tag : Option Tag)
    (builder : Builder) : DeclaresInside builder (builder.emptyOrReject properties tag) := by
  unfold emptyOrReject
  split
  · exact declaresInside_error rfl _
  · split
    · exact declaresInside_scalar properties tag .plain "" builder
    · exact declaresInside_error rfl _

theorem declaresInside_collection (fuel : Nat) (style : CollectionStyle) (properties : Properties)
    (tag : Option Tag) (hBuilder : builder.fault.IsEarly) :
    DeclaresInside builder (collection fuel style properties tag builder) := by
  cases fuel with
  | zero => exact declaresInside_error rfl _
  | succ fuel =>
      have hEnter : FindsEarly (builder.depth + 1) builder.enter :=
        findsEarly_enter ⟨hBuilder, rfl⟩
      -- Whatever fails after the start leaves the collection open.
      have hOpen {result : Builder × Except Fault Node}
          (hResult : FindsEarly (builder.depth + 1) result) : DeclaresInside builder result :=
        fun _ _ => .inr hResult.opens
      unfold Builder.collection
      split
      · next hError => exact hOpen (hEnter.of_error hError)
      · next entered _ hEntered =>
        have hDeclared := (hEnter.isAt hEntered).declare properties.anchor
        generalize entered.declare properties.anchor = declared at hDeclared
        obtain ⟨target, inside⟩ := declared
        cases style with
        | sequence style =>
            have hItems := (findsNodes fuel).items style true [] hDeclared
            dsimp only at hItems ⊢
            generalize Builder.items fuel style true [] inside = part at hItems
            obtain ⟨rest, result⟩ := part
            cases result with
            | error fault => exact hOpen (hItems.of_error rfl)
            | ok read => exact declaresInside_ok _ _
        | mapping style =>
            have hEntries := (findsNodes fuel).entries style true [] hDeclared
            dsimp only at hEntries ⊢
            generalize Builder.entries fuel style true [] inside = part at hEntries
            obtain ⟨rest, result⟩ := part
            cases result with
            | error fault => exact hOpen (hEntries.of_error rfl)
            | ok read => exact declaresInside_ok _ _

theorem declaresInside_node (fuel : Nat) (inBlock indentless : Bool)
    (hBuilder : builder.fault.IsEarly) :
    DeclaresInside builder (node fuel inBlock indentless builder) := by
  cases fuel with
  | zero => exact declaresInside_error rfl _
  | succ fuel =>
      unfold Builder.node
      split
      · split
        · exact declaresInside_ok _ _
        · exact declaresInside_error rfl _
      · split
        · exact declaresInside_error rfl _
        · next properties rest hProperties =>
          have hRest : builder.MovesTo rest := movesTo_properties builder _ hProperties
          refine DeclaresInside.later hRest ?_
          split
          · exact declaresInside_error rfl _
          · split
            · exact (declaresInside_scalar _ _ _ _ _).later (movesTo_drop rest)
            · next style start hStart _ =>
              have hMoves := movesTo_of_collection hStart
              refine (declaresInside_collection fuel style _ _ ?_).later hMoves
              rw [hMoves.fault_eq, hRest.fault_eq]
              exact hBuilder
            · exact declaresInside_emptyOrReject _ _ rest

/-! ## Documents -/

theorem declaresInside_documentContent (fuel : Nat) (hBuilder : builder.fault.IsEarly) :
    DeclaresInside builder (builder.documentContent fuel) := by
  unfold documentContent
  split
  · exact declaresInside_scalar _ none .plain "" builder
  · exact declaresInside_node fuel true false hBuilder

/-- A document that was read leaves no anchors, and one that failed leaves those that it
found or an open collection. -/
theorem anchors_document (fuel : Nat) (hBuilder : builder.fault.IsEarly) :
    (builder.document fuel).1.anchors = [] ∨
      (builder.document fuel).1.anchors = builder.anchors ∨
        builder.depth < (builder.document fuel).1.depth := by
  unfold document
  split
  · exact .inr (.inl rfl)
  · exact .inr (.inl rfl)
  · next kind _ _ =>
    extract_lets starts
    have hRoot : DeclaresInside builder (if starts then builder.explicitDocument fuel
        else ({ builder with handles := usualHandles }).node fuel true false) := by
      split
      · unfold explicitDocument
        split
        · exact declaresInside_error rfl _
        · dsimp only
          split
          · exact declaresInside_documentContent fuel hBuilder
          · exact declaresInside_error rfl _
      · exact declaresInside_node fuel true false hBuilder
    generalize (if starts then builder.explicitDocument fuel
      else ({ builder with handles := usualHandles }).node fuel true false) = part at hRoot
    obtain ⟨middle, result⟩ := part
    cases result with
    | error fault => exact .inr (hRoot fault rfl)
    | ok node =>
        dsimp only
        split <;> exact .inl rfl

end

end Builder

/-! ## Collections that go too deep -/

namespace Builder

section

variable {builder after : Builder} {fuel : Nat} {fault : Fault}

theorem isNext_of_kind {kind : TokenKind} (hKind : builder.kind? = some kind)
    (kinds : List TokenKind) : builder.isNext kinds = kinds.contains kind := by
  simp [isNext, hKind]

theorem node_flowSequence (hKind : builder.kind? = some .flowSequenceStart) (fuel : Nat)
    (inBlock indentless : Bool) :
    node (fuel + 1) inBlock indentless builder =
      collection fuel (.sequence .flow) ⟨none, none, builder.mark⟩ none builder.drop := by
  simp [node, hKind, properties, namedTag, collection?]

theorem items_flowSequence (hKind : builder.kind? = some .flowSequenceStart)
    (hNode : node fuel false false builder = (after, .error fault)) :
    items (fuel + 1) .flow true [] builder = (after, .error fault) := by
  have hEnd : builder.isNext [.flowSequenceEnd] = false := isNext_of_kind hKind _
  have hKey : builder.isNext [.key] = false := isNext_of_kind hKind _
  simp [items, hEnd, hKey, dropComma?, hNode]

theorem collection_tooDeep (style : CollectionStyle) (properties : Properties) (tag : Option Tag)
    (hDepth : builder.maxDepth < builder.depth + 1) :
    collection (fuel + 1) style properties tag builder =
      ({ builder with depth := builder.depth + 1 }, .error .malformed) := by
  have hEnter : builder.enter =
      ({ builder with depth := builder.depth + 1 }, .error .malformed) := if_pos hDepth
  simp [collection, hEnter]

theorem collection_error (style : SequenceStyle) (mark : Mark)
    (hDepth : builder.depth + 1 ≤ builder.maxDepth)
    (hItems : items fuel style true [] { builder with depth := builder.depth + 1 } =
      (after, .error fault)) :
    collection (fuel + 1) (.sequence style) ⟨none, none, mark⟩ none builder =
      (after, .error fault) := by
  have hEnter : builder.enter = ({ builder with depth := builder.depth + 1 }, .ok ()) :=
    if_neg (Nat.not_lt_of_le hDepth)
  simp [collection, hEnter, declare, hItems]

end

theorem node_tooDeep {starts rest : List Token} (hSome : starts ≠ [])
    (hStarts : ∀ token ∈ starts, token.kind = .flowSequenceStart) {fuel : Nat}
    (hFuel : 3 * starts.length ≤ fuel) (inBlock indentless : Bool) {builder : Builder}
    (hTokens : builder.tokens = starts ++ rest)
    (hDepth : builder.maxDepth < builder.depth + starts.length) :
    ∃ after, node fuel inBlock indentless builder = (after, .error .malformed) := by
  induction starts generalizing fuel inBlock indentless builder with
  | nil => contradiction
  | cons first others ih =>
      rw [List.length_cons] at hFuel hDepth
      obtain ⟨fuel, rfl⟩ : ∃ less, fuel = less + 3 := ⟨fuel - 3, by omega⟩
      have hKind : builder.kind? = some .flowSequenceStart := by
        simp [kind?, hTokens, hStarts]
      rw [node_flowSequence hKind]
      -- The first bracket is one too many, or those after it go too deep inside of it.
      by_cases hFull : builder.maxDepth < builder.depth + 1
      · exact ⟨_, collection_tooDeep _ _ _ hFull⟩
      · let inside := { builder.drop with depth := builder.depth + 1 }
        have hInside : inside.tokens = others ++ rest := by
          simp [inside, Builder.drop, hTokens]
        have hOthers : others ≠ [] := by
          rintro rfl
          exact hFull hDepth
        have hNext : inside.kind? = some .flowSequenceStart := by
          obtain ⟨second, others, rfl⟩ := List.exists_cons_of_ne_nil hOthers
          simp [kind?, hInside, hStarts]
        obtain ⟨after, hNode⟩ := ih hOthers
          (fun token hToken => hStarts token (List.mem_cons_of_mem first hToken))
          (by omega : 3 * others.length ≤ fuel) false false hInside
          (by simp only [inside, Builder.drop]; omega)
        exact ⟨after, collection_error _ _ (Nat.le_of_not_lt hFull)
          (items_flowSequence hNext hNode)⟩

theorem document_tooDeep {starts rest : List Token} (hSome : starts ≠ [])
    (hStarts : ∀ token ∈ starts, token.kind = .flowSequenceStart) {fuel : Nat}
    (hFuel : 3 * starts.length ≤ fuel) {builder : Builder}
    (hTokens : builder.tokens = starts ++ rest)
    (hDepth : builder.maxDepth < builder.depth + starts.length) :
    (builder.document fuel).2 = .error .malformed := by
  have hKind : builder.kind? = some .flowSequenceStart := by
    obtain ⟨first, others, rfl⟩ := List.exists_cons_of_ne_nil hSome
    simp [kind?, hTokens, hStarts]
  let inside : Builder := { builder with handles := usualHandles }
  obtain ⟨after, hNode⟩ := node_tooDeep hSome hStarts hFuel true false
    (show inside.tokens = starts ++ rest from hTokens) hDepth
  simp [document, hKind, show node fuel true false { builder with handles := usualHandles } =
    (after, .error .malformed) from hNode]

/-- A document of one plain scalar has no value in a version without rules. -/
theorem document_unknownVersion {content : String} {builder : Builder} (fuel : Nat)
    (hKind : builder.kind? = some (.scalar .plain content))
    (hVersion : builder.version.isKnown = false) :
    (builder.document (fuel + 1)).2 = .error (.unknownVersion builder.version) := by
  have hTag : plainTag? builder.version content.toList = none := by
    simp [plainTag?, hVersion]
  have hHandles : ({ builder with handles := usualHandles } : Builder).kind? =
    some (.scalar .plain content) := hKind
  simp [document, hKind, node, hHandles, properties, namedTag, scalar, Builder.drop, hTag]

end Builder

/-! ## States of loaders -/

namespace LoaderState

/-- What holds of any state that is left: anchors come with open collections, and nodes
with anchors. -/
structure IsTidy (state : LoaderState) : Prop where
  anchors : state.openDepth = 0 → state.anchors = []
  nodes : state.anchors = [] → state.nodes = #[]

theorem isTidy_new : IsTidy {} :=
  ⟨fun _ => rfl, fun _ => rfl⟩

theorem IsTidy.eq_of_openDepth {state : LoaderState} (hTidy : state.IsTidy)
    (hDepth : state.openDepth = 0) : state = { version := state.version } := by
  have hAnchors := hTidy.anchors hDepth
  have hNodes := hTidy.nodes hAnchors
  cases state
  simp_all

theorem IsTidy.eq_new {state : LoaderState} (hTidy : state.IsTidy)
    (hVersion : state.version = .newest) (hDepth : state.openDepth = 0) : state = {} := by
  rw [hTidy.eq_of_openDepth hDepth, hVersion]

end LoaderState

theorem NodeTree.isTidy_ofText (maxDepth : Nat) {state : LoaderState} (content : List Char)
    (hTidy : state.IsTidy) : (NodeTree.ofText maxDepth state content).1.IsTidy := by
  have hOpens := NodeTree.openDepth_ofText maxDepth state content
  have hAnchors := Builder.anchors_document
    (4 * (TokenStream.ofText state.version content).tokens.length + 8)
    (Builder.isAt_start maxDepth state content).fault
  constructor
  · intro hDepth
    rw [hDepth, Nat.le_zero] at hOpens
    rcases hAnchors with hNone | hSame | hOpen
    · exact hNone
    · exact hSame.trans (hTidy.anchors hOpens)
    · exact absurd (Nat.lt_of_lt_of_eq hOpen hDepth) (Nat.not_lt_zero _)
  · intro hNone
    exact if_pos (List.isEmpty_iff.2 hNone)

end SqlDialects.Yaml
