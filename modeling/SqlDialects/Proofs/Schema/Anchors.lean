import SqlDialects.Proofs.Yaml.Aliases
import SqlDialects.Proofs.Schema.Stages

/-!
# Anchors in schemas

Texts that name anchors are refused before their tokens are read.  The check sees an
anchor after the start of a line, a blank, a hyphen or a colon, if its name starts with a
word character.  Other anchors are hidden from it.  A text that loads has hidden anchors
only, and without any it has no aliases either (`Schema.loadText_anchors`).
-/

namespace SqlDialects

open Yaml
open Text (Points)

/-! ## What the check sees -/

/-- The character before a position of a text that itself comes after another character. -/
def charBefore? (previous : Option Char) (content : List Char) : (position : Nat) → Option Char
  | 0 => previous
  | position + 1 => content[position]?

/-- The check of a text sees an anchor at a position. -/
structure ShowsAnchor (content : List Char) (position : Nat) (name : String) : Prop where
  before : precedesAnchor (charBefore? none content position) = true
  name : name.toList.head?.any Text.isWord = true

/-- An anchor stands where the check of the text does not see it. -/
def IsHiddenAnchor (content : List Char) (token : Token) : Prop :=
  ∃ name position, token.kind = .anchor name ∧ token.start = markAt content position ∧
    WritesAnchor content position name ∧ ¬ShowsAnchor content position name

section

variable {content : List Char} {name : String}

theorem namesAnchor_of_writesAnchor {previous : Option Char} {position : Nat}
    (hWrites : WritesAnchor content position name)
    (hBefore : precedesAnchor (charBefore? previous content position) = true)
    (hName : name.toList.head?.any Text.isWord = true) : namesAnchor previous content = true := by
  obtain ⟨hNonempty, rest, hRest⟩ := hWrites
  -- The check forgets all but the last character, so that one has to be general.
  induction position generalizing previous content with
  | zero =>
      obtain ⟨first, others, hChars⟩ := List.exists_cons_of_ne_nil hNonempty
      rw [hChars] at hName
      rw [List.drop_zero, hChars] at hRest
      rw [← hRest]
      simp only [List.cons_append, namesAnchor, List.head?_cons]
      have hSeen : precedesAnchor previous = true := hBefore
      rw [hSeen]
      simpa using Or.inl hName
  | succ position ih =>
      cases content with
      | nil => simp at hRest
      | cons c content =>
          rw [List.drop_succ_cons] at hRest
          have hLater : namesAnchor (some c) content = true := by
            refine ih ?_ hRest
            cases position <;> exact hBefore
          simp [namesAnchor, hLater]

theorem not_showsAnchor_of_checkText (hCheck : checkText content = .ok ()) {position : Nat}
    (hWrites : WritesAnchor content position name) : ¬ShowsAnchor content position name := by
  intro hShows
  have hNames := namesAnchor_of_writesAnchor hWrites hShows.before hShows.name
  simp only [checkText, hNames] at hCheck
  split at hCheck <;> cases hCheck

theorem isHiddenAnchor_of_checkText (hCheck : checkText content = .ok ()) (version : Version) :
    ∀ token ∈ (TokenStream.ofText version content).tokens, token.kind.isAnchor = true →
      IsHiddenAnchor content token := by
  intro token hToken hAnchor
  obtain ⟨before, last, hPlaces, hBefore, hLast⟩ := TokenStream.isPlaced_ofText version content
  have hPlace : token.place ∈ before ++ last := by
    rw [← hPlaces]
    exact List.mem_map_of_mem hToken
  cases hKind : token.kind with
  | anchor name =>
      have hPlaced : IsPlaced content token.place := by
        rcases List.mem_append.1 hPlace with hEarlier | hEnd
        · exact hBefore token.place hEarlier
        · -- What is not placed is the end of the stream, and that is no anchor.
          rcases hLast with rfl | ⟨-, mark, rfl⟩
          · cases hEnd
          · have hEqual := congrArg Prod.fst (List.mem_singleton.1 hEnd)
            rw [show token.place.1 = .anchor name from hKind] at hEqual
            cases hEqual
      obtain ⟨position, hMark, hWrites⟩ := hPlaced.anchor name hKind
      exact ⟨name, position, hKind, hMark, hWrites, not_showsAnchor_of_checkText hCheck hWrites⟩
  | _ =>
      rw [hKind] at hAnchor
      cases hAnchor

end

/-! ## Loading -/

namespace Schema

variable {file : String} {content : Points} {tables : List Table}

/-- A text that loads is one of characters, passes the check and has a tree. -/
theorem exists_tree_of_loadText {state : LoaderState}
    (hLoaded : (loadText state file content).2 = .ok tables) :
    ∃ text : String, content = text ∧ checkText text.toList = .ok () ∧
      ∃ after tree, NodeTree.ofText maxDepth state text.toList = (after, .ok tree) := by
  cases hCheck : checkText content.shown.toList with
  | error fault =>
      rw [loadText_of_refused hCheck] at hLoaded
      cases hLoaded
  | ok passed =>
      rcases Points.ofString_or_illFormed content with ⟨text, rfl⟩ | hHalf
      · rw [Points.shown_ofString] at hCheck
        refine ⟨text, rfl, hCheck, ?_⟩
        rw [loadText_ofString hCheck, Document.load] at hLoaded
        cases hTree : NodeTree.ofText maxDepth state text.toList with
        | mk after result =>
            cases result with
            | error fault =>
                rw [hTree] at hLoaded
                cases hLoaded
            | ok tree => exact ⟨after, tree, rfl⟩
      · rw [loadText_of_illFormed hCheck hHalf] at hLoaded
        cases hLoaded

/-- The anchors of a schema are those that the check of its text does not see.  So it has
neither anchors nor aliases if and only if it has no anchor of that kind. -/
theorem loadText_anchors (hLoaded : (loadText {} file content).2 = .ok tables) :
    ∃ text : String, content = text ∧
      (TokenStream.ofText .newest text.toList).fault = none ∧
      (∀ token ∈ (TokenStream.ofText .newest text.toList).tokens,
        token.kind.isAnchor = true → IsHiddenAnchor text.toList token) ∧
      ((TokenStream.ofText .newest text.toList).HasNoAnchors ↔
        ∀ token ∈ (TokenStream.ofText .newest text.toList).tokens,
          ¬IsHiddenAnchor text.toList token) := by
  obtain ⟨text, hContent, hCheck, after, tree, hTree⟩ := exists_tree_of_loadText hLoaded
  have hHidden := isHiddenAnchor_of_checkText hCheck .newest
  obtain ⟨hFault, hNoAliases⟩ := NodeTree.tokens_of_ofText rfl hTree
  refine ⟨text, hContent, hFault, hHidden, ?_, fun hNone => hNoAliases fun token hToken => ?_⟩
  · intro hNone token hToken hIsHidden
    obtain ⟨name, position, hKind, -⟩ := hIsHidden
    have hAnchor := (hNone token hToken).1
    rw [hKind] at hAnchor
    cases hAnchor
  · -- Every anchor would be hidden, so there is none, and then there are no aliases.
    rw [Bool.eq_false_iff]
    exact fun hAnchor => hNone token hToken (hHidden token hToken hAnchor)

/-- Two tables that share a field; its anchor comes after a bracket. -/
def sharedFieldText : String :=
  "tables: [\x7bname: t, fields: [&f \x7bname: x, type: int\x7d]\x7d, " ++
    "\x7bname: u, fields: [*f]\x7d]\n"

private theorem exists_loadText_sharedFieldText :
    ∃ tables, (loadText {} "shared.yaml" sharedFieldText).2 = .ok tables := by
  have hSome : (loadText {} "shared.yaml" sharedFieldText).2.toOption.isSome = true := by
    decide +kernel
  cases hResult : (loadText {} "shared.yaml" sharedFieldText).2 with
  | error fault =>
      rw [hResult] at hSome
      cases hSome
  | ok tables => exact ⟨tables, rfl⟩

theorem loadText_anchors_sharedFieldText :
    ∃ tables, (loadText {} "shared.yaml" sharedFieldText).2 = .ok tables ∧
      (TokenStream.ofText .newest sharedFieldText.toList).fault = none ∧
      (∀ token ∈ (TokenStream.ofText .newest sharedFieldText.toList).tokens,
        token.kind.isAnchor = true → IsHiddenAnchor sharedFieldText.toList token) ∧
      ((TokenStream.ofText .newest sharedFieldText.toList).HasNoAnchors ↔
        ∀ token ∈ (TokenStream.ofText .newest sharedFieldText.toList).tokens,
          ¬IsHiddenAnchor sharedFieldText.toList token) := by
  obtain ⟨tables, hLoaded⟩ := exists_loadText_sharedFieldText
  obtain ⟨text, hText, hAnchors⟩ := loadText_anchors hLoaded
  obtain rfl : sharedFieldText = text := Points.ofString_inj.1 hText
  exact ⟨tables, hLoaded, hAnchors⟩

/-- A schema may have an anchor and an alias. -/
theorem loadText_sharedFieldText :
    ∃ tables, (loadText {} "shared.yaml" sharedFieldText).2 = .ok tables ∧
      (∃ token ∈ (TokenStream.ofText .newest sharedFieldText.toList).tokens,
        token.kind = .anchor "f") ∧
      ∃ token ∈ (TokenStream.ofText .newest sharedFieldText.toList).tokens,
        token.kind = .aliasOf "f" := by
  obtain ⟨tables, hLoaded⟩ := exists_loadText_sharedFieldText
  exact ⟨tables, hLoaded, by decide +kernel, by decide +kernel⟩

end Schema

end SqlDialects
