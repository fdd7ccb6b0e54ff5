import Mathlib.Data.List.Induction
import Mathlib.Data.List.Infix
import Mathlib.Data.List.TakeWhile
import SqlDialects.Proofs.Sql.Separation
import SqlDialects.Schema.SourceMap

/-!
# Paths of locations

A path is one text, and a search for the nearest place takes it apart again at its last
dot or bracket.  If no key is empty or has such a character, a path shows its location and
the search goes along the beginnings of that location.
-/

namespace SqlDialects

open Text (Points CodePoint)

namespace Step

/-- A key that is not empty and has no code point that starts a step. -/
def isPlainKey (name : Points) : Bool :=
  decide (name ≠ "") && name.toList.all fun point => !SourceMap.startsStep point

/-- A step whose text can be told from the texts of the steps around it. -/
def IsPlain : Step → Prop
  | .index _ => True
  | .key name => isPlainKey name = true

/-- The code point that a step starts with after another one. -/
def sign : Step → CodePoint
  | .index _ => '['
  | .key _ => '.'

/-- What a step writes after that code point. -/
def body : Step → List CodePoint
  | .index position => (Points.ofString (Number.natText position)).toList ++ [.char ']']
  | .key name => name.toList

section

variable {step : Step}

theorem startsStep_sign (step : Step) : SourceMap.startsStep step.sign = true := by
  cases step <;> rfl

theorem startsStep_of_mem_body (hPlain : step.IsPlain) :
    ∀ point ∈ step.body, SourceMap.startsStep point = false := by
  intro point hMem
  cases step with
  | key name =>
      have hName : isPlainKey name = true := hPlain
      simp only [isPlainKey, Bool.and_eq_true, List.all_eq_true] at hName
      simpa using hName.2 point hMem
  | index position =>
      rcases List.mem_append.1 hMem with hDigit | hBracket
      · obtain ⟨c, hChar, rfl⟩ := List.mem_map.1 hDigit
        rw [Number.natText, String.toList_ofList] at hChar
        have hIsDigit := Nat.isDigit_of_mem_toDigits (by decide) (by decide) hChar
        rw [Bool.eq_false_iff]
        intro hStarts
        simp only [SourceMap.startsStep, Bool.or_eq_true, beq_iff_eq, CodePoint.char.injEq]
          at hStarts
        rcases hStarts with rfl | rfl <;> simp at hIsDigit
      · rw [List.mem_singleton.1 hBracket]
        rfl

theorem body_ne_nil (hPlain : step.IsPlain) : step.body ≠ [] := by
  cases step with
  | index position => simp [body]
  | key name =>
      have hName : isPlainKey name = true := hPlain
      simp only [isPlainKey, Bool.and_eq_true, decide_eq_true_eq] at hName
      exact fun hEmpty => hName.1 (Points.toList_eq_nil_iff.1 hEmpty)

theorem eq_of_sign_body {other : Step} (hSign : step.sign = other.sign)
    (hBody : step.body = other.body) : step = other := by
  cases step with
  | key name =>
      cases other with
      | key otherName => rw [Points.toList_inj.1 hBody]
      | index position => cases hSign
  | index position =>
      cases other with
      | key name => cases hSign
      | index otherPosition =>
          have hDigits := List.append_cancel_right hBody
          rw [(Sql.separates_natText position otherPosition [] [] (by simp [Sql.StartsWithoutDigit])
            (by simp [Sql.StartsWithoutDigit]) (by simpa using hDigits)).1]

theorem toList_extend {path : Points} (hPath : path ≠ "") (step : Step) :
    (extend path step).toList = path.toList ++ step.sign :: step.body := by
  cases step with
  | key name => simp [extend, sign, body, hPath]
  | index position => simp [extend, sign, body]

end

end Step

/-! ## Paths -/

section

variable {location : List Step} {step : Step}

theorem locationPath_concat (location : List Step) (step : Step) :
    locationPath (location ++ [step]) = Step.extend (locationPath location) step := by
  simp [locationPath]

theorem locationPath_ne_empty (hPlain : ∀ step ∈ location, step.IsPlain)
    (hLocation : location ≠ []) : locationPath location ≠ "" := by
  obtain ⟨before, step, rfl⟩ := (List.eq_nil_or_concat' location).resolve_left hLocation
  have hBody := Step.body_ne_nil (hPlain step (by simp))
  rw [locationPath_concat]
  intro hEmpty
  have hText := congrArg Points.toList hEmpty
  by_cases hPath : locationPath before = ""
  · cases step with
    | key name => simp [hPath, Step.extend, Step.body] at hText hBody; contradiction
    | index position => simp [Step.extend] at hText
  · rw [Step.toList_extend hPath] at hText
    simp at hText

/-- Only a key at the start of a path is written without its sign. -/
theorem toList_locationPath_concat (hPlain : ∀ step ∈ location, step.IsPlain) (step : Step) :
    (location = [] ∧ (∃ name, step = .key name) ∧
      (locationPath (location ++ [step])).toList = step.body) ∨
    ((location = [] → ∃ position, step = .index position) ∧
      (locationPath (location ++ [step])).toList =
        (locationPath location).toList ++ step.sign :: step.body) := by
  by_cases hLocation : location = []
  · subst hLocation
    cases step with
    | key name => exact Or.inl ⟨rfl, ⟨name, rfl⟩, by simp [locationPath, Step.extend, Step.body]⟩
    | index position =>
        refine Or.inr ⟨fun _ => ⟨position, rfl⟩, ?_⟩
        simp [locationPath, Step.extend, Step.sign, Step.body]
  · refine Or.inr ⟨fun hNil => absurd hNil hLocation, ?_⟩
    rw [locationPath_concat, Step.toList_extend (locationPath_ne_empty hPlain hLocation)]

end

theorem sign_unique {before other body otherBody : List CodePoint} {sign otherSign : CodePoint}
    (hSign : SourceMap.startsStep sign = true) (hOtherSign : SourceMap.startsStep otherSign = true)
    (hBody : ∀ point ∈ body, SourceMap.startsStep point = false)
    (hOtherBody : ∀ point ∈ otherBody, SourceMap.startsStep point = false)
    (hEqual : before ++ sign :: body = other ++ otherSign :: otherBody) :
    before = other ∧ sign = otherSign ∧ body = otherBody := by
  rcases List.append_eq_append_iff.1 hEqual with ⟨middle, rfl, hRest⟩ | ⟨middle, rfl, hRest⟩
  · cases middle with
    | nil => simpa using hRest
    | cons point middle =>
        rw [List.cons_append, List.cons.injEq] at hRest
        rw [hBody otherSign (by simp [hRest.2])] at hOtherSign
        cases hOtherSign
  · cases middle with
    | nil => simpa [eq_comm] using hRest
    | cons point middle =>
        rw [List.cons_append, List.cons.injEq] at hRest
        rw [hOtherBody sign (by simp [hRest.2])] at hSign
        cases hSign

theorem locationPath_injective {first second : List Step}
    (hFirst : ∀ step ∈ first, step.IsPlain) (hSecond : ∀ step ∈ second, step.IsPlain)
    (hEqual : locationPath first = locationPath second) : first = second := by
  induction first using List.reverseRecOn generalizing second with
  | nil =>
      by_contra hSecondSome
      exact locationPath_ne_empty hSecond (Ne.symm hSecondSome) hEqual.symm
  | append_singleton location step ih =>
      rcases List.eq_nil_or_concat' second with rfl | ⟨other, last, rfl⟩
      · exact absurd hEqual (locationPath_ne_empty hFirst (by simp))
      · have hLocation : ∀ step ∈ location, step.IsPlain :=
          fun step hStep => hFirst step (by simp [hStep])
        have hOther : ∀ step ∈ other, step.IsPlain :=
          fun step hStep => hSecond step (by simp [hStep])
        have hBody := Step.startsStep_of_mem_body (hFirst step (by simp))
        have hLastBody := Step.startsStep_of_mem_body (hSecond last (by simp))
        have hTexts := congrArg Points.toList hEqual
        rcases toList_locationPath_concat hLocation step with
          ⟨rfl, ⟨name, rfl⟩, hText⟩ | ⟨-, hText⟩ <;>
          rcases toList_locationPath_concat hOther last with
            ⟨rfl, ⟨otherName, rfl⟩, hOtherText⟩ | ⟨-, hOtherText⟩ <;>
          rw [hText, hOtherText] at hTexts
        · rw [Points.toList_inj.1 hTexts]
        · -- A key at the start has no sign.
          have hSign := hBody last.sign (by simp [hTexts])
          rw [last.startsStep_sign] at hSign
          cases hSign
        · have hSign := hLastBody step.sign (by simp [← hTexts])
          rw [step.startsStep_sign] at hSign
          cases hSign
        · obtain ⟨hPaths, hSigns, hBodies⟩ := sign_unique step.startsStep_sign
            last.startsStep_sign hBody hLastBody hTexts
          rw [ih hLocation hOther (Points.toList_inj.1 hPaths), Step.eq_of_sign_body hSigns hBodies]

/-! ## The nearest place -/

/-- The beginnings of a location save the empty one, the longest first. -/
def beginnings (location : List Step) : List (List Step) :=
  location.inits.tail.reverse

theorem beginnings_concat (location : List Step) (step : Step) :
    beginnings (location ++ [step]) = (location ++ [step]) :: beginnings location := by
  have hInits : location.inits ≠ [] := by cases location <;> simp
  simp [beginnings, List.inits_append, List.tail_append_of_ne_nil hInits]

theorem mem_beginnings {location before : List Step} :
    before ∈ beginnings location ↔ before ≠ [] ∧ before <+: location := by
  cases location with
  | nil => simp [beginnings]
  | cons step location =>
      simp only [beginnings, List.inits_cons, List.tail_cons, List.mem_reverse, List.mem_map,
        List.mem_inits]
      constructor
      · rintro ⟨rest, hRest, rfl⟩
        exact ⟨by simp, by simpa using hRest⟩
      · rintro ⟨hSome, hBefore⟩
        obtain ⟨first, rest, rfl⟩ := List.exists_cons_of_ne_nil hSome
        rw [List.cons_prefix_cons] at hBefore
        exact ⟨rest, hBefore.2, by rw [hBefore.1]⟩

namespace SourceMap

theorem parentOfReversed?_append (before : List CodePoint) {sign : CodePoint}
    {body : List CodePoint} (hSign : startsStep sign = true)
    (hBody : ∀ point ∈ body, startsStep point = false) :
    parentOfReversed? (before ++ sign :: body).reverse =
      if before = [] then none else some before.reverse := by
  have hDropped : (before ++ sign :: body).reverse.dropWhile
      (fun point => !startsStep point) =
      sign :: before.reverse := by
    rw [List.reverse_append, List.reverse_cons, List.append_assoc,
      List.dropWhile_append_of_pos (by simpa using hBody)]
    simp [hSign]
  rw [parentOfReversed?, hDropped]
  simp

theorem parentOfReversed?_eq_none {text : List CodePoint}
    (hText : ∀ point ∈ text, startsStep point = false) : parentOfReversed? text.reverse = none := by
  have hDropped : text.reverse.dropWhile (fun point => !startsStep point) = [] := by
    simpa [List.dropWhile_eq_nil_iff] using hText
  rw [parentOfReversed?, hDropped]

section

variable {location : List Step} {step : Step}

/-- A path that is cut at its last dot or bracket is that of the part around. -/
theorem parentOfReversed?_locationPath (hPlain : ∀ other ∈ location ++ [step], other.IsPlain)
    (hStart : ∀ position, (location ++ [step]).head? ≠ some (.index position)) :
    parentOfReversed? (locationPath (location ++ [step])).toList.reverse =
      if location = [] then none else some (locationPath location).toList.reverse := by
  have hLocation : ∀ other ∈ location, other.IsPlain := fun other hOther =>
    hPlain other (by simp [hOther])
  have hBody := Step.startsStep_of_mem_body (hPlain step (by simp))
  rcases toList_locationPath_concat hLocation step with ⟨rfl, -, hText⟩ | ⟨hIndex, hText⟩
  · rw [hText, parentOfReversed?_eq_none hBody, if_pos rfl]
  · have hBefore : location ≠ [] := by
      rintro rfl
      obtain ⟨position, rfl⟩ := hIndex rfl
      exact hStart position rfl
    have hPath : (locationPath location).toList ≠ [] := by
      simpa using locationPath_ne_empty hLocation hBefore
    rw [hText, parentOfReversed?_append _ step.startsStep_sign hBody, if_neg hPath, if_neg hBefore]

theorem length_locationPath_lt_concat (hPlain : ∀ other ∈ location ++ [step], other.IsPlain) :
    (locationPath location).length < (locationPath (location ++ [step])).length := by
  have hLocation : ∀ other ∈ location, other.IsPlain := fun other hOther =>
    hPlain other (by simp [hOther])
  have hSome := List.length_pos_iff.2 (Step.body_ne_nil (hPlain step (by simp)))
  rw [Points.length, Points.length]
  rcases toList_locationPath_concat hLocation step with ⟨rfl, -, hText⟩ | ⟨-, hText⟩
  · rw [hText]
    simpa [locationPath] using hSome
  · simp [hText]

end

/-- The search for the nearest place of a path goes along the beginnings of its location. -/
theorem nearest?_locationPath (map : SourceMap) {location : List Step}
    (hPlain : ∀ step ∈ location, step.IsPlain)
    (hStart : ∀ position, location.head? ≠ some (.index position)) :
    map.nearest? (locationPath location) =
      (beginnings location).findSome? fun before => map.get? (locationPath before) := by
  suffices hFuel : ∀ fuel, (locationPath location).length < fuel →
      map.nearestFrom? fuel (locationPath location).toList.reverse =
        (beginnings location).findSome? fun before => map.get? (locationPath before) from
    hFuel _ (Nat.lt_succ_self _)
  induction location using List.reverseRecOn with
  | nil =>
      intro fuel hFuel
      cases fuel with
      | zero => simp at hFuel
      | succ fuel => simp [nearestFrom?, locationPath, beginnings]
  | append_singleton location step ih =>
      intro fuel hFuel
      obtain ⟨fuel, rfl⟩ := Nat.exists_eq_succ_of_ne_zero (by omega : fuel ≠ 0)
      have hSome := locationPath_ne_empty hPlain (by simp)
      rw [nearestFrom?, beginnings_concat, List.findSome?_cons,
        parentOfReversed?_locationPath hPlain hStart]
      simp only [List.reverse_reverse]
      rw [if_neg (by simpa using hSome)]
      cases hGet : map.get? (locationPath (location ++ [step])) with
      | some span => rfl
      | none =>
          dsimp only
          by_cases hBefore : location = []
          · subst hBefore
            rfl
          · have hShorter := length_locationPath_lt_concat hPlain
            rw [if_neg hBefore, Option.bind_some]
            refine ih (fun other hOther => hPlain other (by simp [hOther]))
              (fun position hHead => hStart position ?_) fuel (by omega)
            rw [List.head?_append, hHead]
            rfl

end SourceMap

end SqlDialects
