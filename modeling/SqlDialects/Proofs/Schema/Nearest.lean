import Mathlib.Data.List.Find
import SqlDialects.Proofs.Schema.Paths

/-!
# The deepest recorded part

The span of a part that has none of its own is that of the deepest part around it that has
one.  A source map knows parts by their paths only, and cuts a path at its last dot or bracket
to come to the part around.  If all locations start with a key and have plain steps, this is
the same: the map finds the span that was added last for the longest beginning of a location
for which one was added (`SourceMap.nearest?_deepest`).
-/

namespace SqlDialects

open Text (Points)

/-- A location from the root of a document, which is a mapping, by plain steps. -/
structure IsRooted (location : List Step) : Prop where
  startsWithKey : ∃ name, location.head? = some (.key name)
  plain : ∀ step ∈ location, step.IsPlain

section

variable {location before : List Step}

theorem IsRooted.head?_ne_index (hRooted : IsRooted location) (position : Nat) :
    location.head? ≠ some (.index position) := by
  obtain ⟨name, hHead⟩ := hRooted.startsWithKey
  simp [hHead]

theorem IsRooted.of_beginning (hRooted : IsRooted location) (hSome : before ≠ [])
    (hBefore : before <+: location) : IsRooted before where
  startsWithKey := by
    obtain ⟨name, hHead⟩ := hRooted.startsWithKey
    obtain ⟨rest, rfl⟩ := hBefore
    exact ⟨name, by rwa [List.head?_append_of_ne_nil _ hSome] at hHead⟩
  plain step hStep := hRooted.plain step (hBefore.mem hStep)

instance : DecidablePred Step.IsPlain
  | .index _ => .isTrue trivial
  | .key name => inferInstanceAs (Decidable (Step.isPlainKey name = true))

instance : DecidablePred IsRooted
  | [] => .isFalse fun hRooted => by
    obtain ⟨name, hHead⟩ := hRooted.startsWithKey
    cases hHead
  | .index _ :: _ => .isFalse fun hRooted => by
    obtain ⟨name, hHead⟩ := hRooted.startsWithKey
    cases hHead
  | .key name :: location =>
    decidable_of_iff (∀ step ∈ Step.key name :: location, step.IsPlain)
      ⟨fun hPlain => ⟨⟨name, rfl⟩, hPlain⟩, IsRooted.plain⟩

/-- What is found first along the beginnings of a location is found at the longest one at which
there is something. -/
theorem findSome?_beginnings_eq_some_iff {α : Type} {find : List Step → Option α} {found : α} :
    (beginnings location).findSome? find = some found ↔
      ∃ before ∈ beginnings location, find before = some found ∧
        ∀ other ∈ beginnings location, find other ≠ none → other.length ≤ before.length := by
  induction location using List.reverseRecOn with
  | nil => simp [beginnings]
  | append_singleton location step ih =>
      have hShorter : ∀ other ∈ beginnings location, other.length ≤ location.length :=
        fun other hOther => (mem_beginnings.1 hOther).2.length_le
      rw [beginnings_concat, List.findSome?_cons]
      cases hFind : find (location ++ [step]) with
      | none => simp [ih, hFind]
      | some here =>
          constructor
          · rintro ⟨⟩
            refine ⟨_, List.mem_cons_self, hFind, fun other hOther _ => ?_⟩
            rcases List.mem_cons.1 hOther with rfl | hOther
            · exact le_rfl
            · exact (hShorter other hOther).trans (by simp)
          · rintro ⟨before, hBefore, hFound, hLongest⟩
            -- The whole location is longer than its other beginnings.
            have hWhole := hLongest _ List.mem_cons_self (by simp [hFind])
            rcases List.mem_cons.1 hBefore with rfl | hBefore
            · rwa [hFind] at hFound
            · have hLess := hShorter before hBefore
              simp only [List.length_append, List.length_singleton] at hWhole
              omega

end

namespace SourceMap

/-! ## Maps that were built by additions -/

/-- The map in which spans are added for locations, one after another. -/
def ofAdditions (additions : List (List Step × Span)) : SourceMap :=
  additions.foldl (fun map addition => map.add (locationPath addition.1) addition.2) empty

/-- A span was added for a location, and no other one later. -/
def IsLatest (additions : List (List Step × Span)) (location : List Step) (span : Span) : Prop :=
  ∃ earlier later, additions = earlier ++ (location, span) :: later ∧
    location ∉ later.map Prod.fst

/-- The span of the longest beginning of a location for which spans were added. -/
structure IsDeepest (additions : List (List Step × Span)) (location before : List Step)
    (span : Span) : Prop where
  ne_nil : before ≠ []
  isBeginning : before <+: location
  isLatest : IsLatest additions before span
  longest : ∀ other, other <+: location → other ∈ additions.map Prod.fst →
    other.length ≤ before.length

section

variable {additions : List (List Step × Span)} {location before : List Step} {span : Span}

theorem records_foldl_add {α : Type} (path : α → Points) (span : α → Span) (items : List α)
    (map : SourceMap) :
    (items.foldl (fun map item => map.add (path item) (span item)) map).records =
      items.reverse.map (fun item => (path item, span item)) ++ map.records := by
  induction items generalizing map with
  | nil => simp
  | cons item items ih =>
      rw [List.foldl_cons, ih]
      simp [add]

theorem isLatest_iff_find? :
    IsLatest additions location span ↔
      additions.reverse.find? (fun addition => addition.1 == location) = some (location, span) := by
  rw [List.find?_eq_some_iff_append]
  constructor
  · rintro ⟨earlier, later, rfl, hLater⟩
    refine ⟨beq_self_eq_true _, later.reverse, earlier.reverse, by simp, fun addition hMem => ?_⟩
    have hOther : addition.1 ≠ location := by
      rintro rfl
      exact hLater (List.mem_map_of_mem (List.mem_reverse.1 hMem))
    simpa using hOther
  · rintro ⟨-, later, earlier, hSplit, hLater⟩
    refine ⟨earlier.reverse, later.reverse, by simpa using congrArg List.reverse hSplit, ?_⟩
    intro hMem
    obtain ⟨addition, hAddition, hEqual⟩ := List.mem_map.1 hMem
    simpa [hEqual] using hLater addition (List.mem_reverse.1 hAddition)

/-- A path shows its location, so what is recorded for the path was added for the location. -/
theorem get?_ofAdditions (hAdditions : ∀ addition ∈ additions, IsRooted addition.1)
    (hRooted : IsRooted location) :
    (ofAdditions additions).get? (locationPath location) =
      (additions.reverse.find? fun addition => addition.1 == location).map Prod.snd := by
  have hSame : ∀ addition ∈ additions.reverse,
      (locationPath addition.1 == locationPath location) = (addition.1 == location) := by
    intro addition hAddition
    have hPlain := (hAdditions addition (List.mem_reverse.1 hAddition)).plain
    rw [Bool.eq_iff_iff, beq_iff_eq, beq_iff_eq]
    exact ⟨locationPath_injective hPlain hRooted.plain, congrArg locationPath⟩
  rw [get?, ofAdditions, records_foldl_add, empty, List.append_nil, List.find?_map]
  simp only [Function.comp_def, Option.map_map, List.find?_congr hSame]

theorem get?_ofAdditions_eq_some_iff (hAdditions : ∀ addition ∈ additions, IsRooted addition.1)
    (hRooted : IsRooted location) :
    (ofAdditions additions).get? (locationPath location) = some span ↔
      IsLatest additions location span := by
  rw [get?_ofAdditions hAdditions hRooted, isLatest_iff_find?, Option.map_eq_some_iff]
  constructor
  · rintro ⟨⟨other, _⟩, hLatest, rfl⟩
    obtain rfl : other = location := by simpa using List.find?_some hLatest
    exact hLatest
  · intro hLatest
    exact ⟨_, hLatest, rfl⟩

theorem get?_ofAdditions_eq_none_iff (hAdditions : ∀ addition ∈ additions, IsRooted addition.1)
    (hRooted : IsRooted location) :
    (ofAdditions additions).get? (locationPath location) = none ↔
      location ∉ additions.map Prod.fst := by
  rw [get?_ofAdditions hAdditions hRooted, Option.map_eq_none_iff, List.find?_eq_none]
  simp only [List.mem_reverse, beq_iff_eq, List.mem_map, not_exists, not_and]

theorem isDeepest_iff (hAdditions : ∀ addition ∈ additions, IsRooted addition.1)
    (hRooted : IsRooted location) :
    IsDeepest additions location before span ↔
      before ∈ beginnings location ∧
        (ofAdditions additions).get? (locationPath before) = some span ∧
        ∀ other ∈ beginnings location,
          (ofAdditions additions).get? (locationPath other) ≠ none →
            other.length ≤ before.length := by
  have hBeginning {other : List Step} (hOther : other ∈ beginnings location) : IsRooted other :=
    hRooted.of_beginning (mem_beginnings.1 hOther).1 (mem_beginnings.1 hOther).2
  constructor
  · rintro ⟨hSome, hBefore, hLatest, hLongest⟩
    have hMem := mem_beginnings.2 ⟨hSome, hBefore⟩
    refine ⟨hMem, (get?_ofAdditions_eq_some_iff hAdditions (hBeginning hMem)).2 hLatest, ?_⟩
    intro other hOther hFound
    rw [Ne, get?_ofAdditions_eq_none_iff hAdditions (hBeginning hOther), not_not] at hFound
    exact hLongest other (mem_beginnings.1 hOther).2 hFound
  · rintro ⟨hMem, hFound, hLongest⟩
    obtain ⟨hSome, hBefore⟩ := mem_beginnings.1 hMem
    refine ⟨hSome, hBefore,
      (get?_ofAdditions_eq_some_iff hAdditions (hBeginning hMem)).1 hFound, ?_⟩
    intro other hOther hAdded
    by_cases hEmpty : other = []
    · simp [hEmpty]
    · have hOtherMem := mem_beginnings.2 ⟨hEmpty, hOther⟩
      refine hLongest other hOtherMem fun hNone => ?_
      exact (get?_ofAdditions_eq_none_iff hAdditions (hBeginning hOtherMem)).1 hNone hAdded

/-- A map finds the span that was added last for the longest beginning of a location for which
one was added, and nothing if none was.  Paths tell locations apart. -/
theorem nearest?_deepest :
    (∀ first second, IsRooted first → IsRooted second →
      locationPath first = locationPath second → first = second) ∧
    ∀ additions location, (∀ addition ∈ additions, IsRooted addition.1) → IsRooted location →
      (∀ span, (ofAdditions additions).nearest? (locationPath location) = some span ↔
        ∃ before, IsDeepest additions location before span) ∧
      ((ofAdditions additions).nearest? (locationPath location) = none ↔
        ∀ before, before ≠ [] → before <+: location → before ∉ additions.map Prod.fst) := by
  refine ⟨fun first second hFirst hSecond => locationPath_injective hFirst.plain hSecond.plain,
    fun additions location hAdditions hRooted => ?_⟩
  rw [nearest?_locationPath _ hRooted.plain hRooted.head?_ne_index]
  constructor
  · intro span
    rw [findSome?_beginnings_eq_some_iff]
    exact exists_congr fun before => (isDeepest_iff hAdditions hRooted).symm
  · rw [List.findSome?_eq_none_iff]
    constructor
    · intro hNone before hSome hBefore
      rw [← get?_ofAdditions_eq_none_iff hAdditions (hRooted.of_beginning hSome hBefore)]
      exact hNone before (mem_beginnings.2 ⟨hSome, hBefore⟩)
    · intro hNone before hMem
      obtain ⟨hSome, hBefore⟩ := mem_beginnings.1 hMem
      rw [get?_ofAdditions_eq_none_iff hAdditions (hRooted.of_beginning hSome hBefore)]
      exact hNone before hSome hBefore

/-- Spans of tables, the first of which is added twice. -/
def tableAdditions : List (List Step × Span) :=
  [([.key "tables"], ⟨"shop.yaml", 1, 1⟩),
    ([.key "tables", .index 0], ⟨"shop.yaml", 2, 3⟩),
    ([.key "tables", .index 1, .key "fields"], ⟨"shop.yaml", 5, 5⟩),
    ([.key "tables", .index 0], ⟨"shop.yaml", 3, 3⟩)]

/-- The location of a part of the first table. -/
def typeLocation : List Step :=
  [.key "tables", .index 0, .key "fields", .index 2, .key "type"]

theorem nearest?_deepest_tableAdditions :
    (∀ addition ∈ tableAdditions, IsRooted addition.1) ∧ IsRooted typeLocation ∧
      (∀ other, IsRooted other → locationPath typeLocation = locationPath other →
        typeLocation = other) ∧
      (ofAdditions tableAdditions).nearest? (locationPath typeLocation) =
        some ⟨"shop.yaml", 3, 3⟩ ∧
      (ofAdditions tableAdditions).nearest? (locationPath [.key "views", .index 0]) = none := by
  have hAdditions : ∀ addition ∈ tableAdditions, IsRooted addition.1 := by decide +kernel
  have hType : IsRooted typeLocation := by decide +kernel
  have hViews : IsRooted [.key "views", .index 0] := by decide +kernel
  obtain ⟨hInjective, hNearest⟩ := nearest?_deepest
  refine ⟨hAdditions, hType, fun other => hInjective _ other hType, ?_, ?_⟩
  · have hLongest : ∀ other ∈ tableAdditions.map Prod.fst, other <+: typeLocation →
        other.length ≤ 2 := by decide
    have hDeepest : IsDeepest tableAdditions typeLocation [.key "tables", .index 0]
        ⟨"shop.yaml", 3, 3⟩ :=
      ⟨by simp, ⟨_, rfl⟩, ⟨tableAdditions.take 3, [], rfl, by simp⟩,
        fun other hOther hAdded => hLongest other hAdded hOther⟩
    exact ((hNearest _ _ hAdditions hType).1 _).2 ⟨_, hDeepest⟩
  · have hApart : ∀ other ∈ tableAdditions.map Prod.fst,
        ¬other <+: [.key "views", .index 0] := by decide
    exact (hNearest _ _ hAdditions hViews).2.2 fun before _ hBefore hAdded =>
      hApart before hAdded hBefore

end

end SourceMap

end SqlDialects
