import Mathlib.Data.List.Nodup
import SqlDialects.Proofs.Schema.Paths
import SqlDialects.Proofs.Yaml.Leaves
import SqlDialects.Schema.Loader

/-!
# Places of parts

A location leads from a document to one of its parts, and a part may have a place.  The
records of a document name a place by the path of its part only.  So the place of a part is
the one that is recorded under its path if no other part has that path, and if all keys are
plain no other part has (`Yaml.Datum.keepsApart_of_hasPlainKeys`).
-/

namespace SqlDialects

open Text (Points)

namespace Yaml.Datum

/-! ## Parts -/

/-- The part that a step leads to, and its place.  Of entries whose keys have one text the
last one counts. -/
def part? : Datum → Step → Option (Option Mark × Datum)
  | sequence items, .index position => items[position]?
  | mapping entries, .key name =>
    (entries.reverse.find? fun entry => keyText entry.1 == name).map Prod.snd
  | _, _ => none

/-- The part that a location leads to. -/
def reach? (root : Datum) (location : List Step) : Option (Option Mark × Datum) :=
  location.foldlM (fun reached step => reached.2.part? step) (none, root)

/-- The place of the part that a location leads to. -/
def mark? (root : Datum) (location : List Step) : Option Mark :=
  (root.reach? location).bind Prod.fst

/-- The place of the deepest part that has one, on the way along a location. -/
def nearestMark? (root : Datum) (location : List Step) : Option Mark :=
  (beginnings location).findSome? root.mark?

/-- The last place that is recorded under a path. -/
def lastMark? (root : Datum) (path : Points) : Option Mark :=
  ((root.places "").reverse.find? fun place => place.1 == path).map Prod.snd

/-- Whatever is recorded under the path of a beginning of a location is the place of the part
there. -/
def KeepsApart (root : Datum) (location : List Step) : Prop :=
  ∀ before ∈ beginnings location, ∀ mark, (locationPath before, mark) ∈ root.places "" →
    root.mark? before = some mark

theorem reach?_cons (root : Datum) (step : Step) (location : List Step) :
    root.reach? (step :: location) = (root.part? step).bind fun reached =>
      if location = [] then some reached else reached.2.reach? location := by
  rw [reach?, List.foldlM_cons]
  cases hPart : root.part? step with
  | none => simp
  | some reached =>
      cases location with
      | nil => simp
      | cons next location => simp [reach?, List.foldlM_cons]

/-! ## Records -/

section

variable {path : Points} {place : Points × Mark}

/-- A record is the place of a part or belongs to something inside that part. -/
def IsPlaced (path : Points) (mark : Option Mark) (part : Datum) (place : Points × Mark) : Prop :=
  mark.map (path, ·) = some place ∨ place ∈ part.places path

theorem mem_itemPlaces_iff {index : Nat} {items : List (Option Mark × Datum)} :
    place ∈ itemPlaces path index items ↔ ∃ position mark part,
      items[position]? = some (mark, part) ∧
        IsPlaced (Step.extend path (.index (index + position))) mark part place := by
  induction items generalizing index with
  | nil => simp [itemPlaces]
  | cons item items ih =>
      obtain ⟨mark, part⟩ := item
      simp only [itemPlaces, List.mem_append, ih]
      constructor
      · rintro ((hHere | hInside) | ⟨position, mark, part, hItem, hPlaced⟩)
        · exact ⟨0, mark, part, rfl, Or.inl (by simpa [Step.extend] using hHere)⟩
        · exact ⟨0, mark, part, rfl, Or.inr (by simpa [Step.extend] using hInside)⟩
        · refine ⟨position + 1, mark, part, by simpa using hItem, ?_⟩
          rwa [show index + (position + 1) = index + 1 + position by omega]
      · rintro ⟨position, otherMark, otherPart, hItem, hPlaced⟩
        cases position with
        | zero =>
            obtain ⟨rfl, rfl⟩ : mark = otherMark ∧ part = otherPart := by simpa using hItem
            rcases hPlaced with hHere | hInside
            · exact Or.inl (Or.inl (by simpa [Step.extend] using hHere))
            · exact Or.inl (Or.inr (by simpa [Step.extend] using hInside))
        | succ position =>
            refine Or.inr ⟨position, otherMark, otherPart, by simpa using hItem, ?_⟩
            rwa [show index + 1 + position = index + (position + 1) by omega]

theorem mem_entryPlaces_iff {entries : Entries} :
    place ∈ entryPlaces path entries ↔ ∃ key mark part, (key, mark, part) ∈ entries ∧
      IsPlaced (Step.extend path (.key (keyText key))) mark part place := by
  induction entries with
  | nil => simp [entryPlaces]
  | cons entry entries ih =>
      obtain ⟨key, mark, part⟩ := entry
      simp only [entryPlaces, List.mem_append, ih]
      constructor
      · rintro ((hHere | hInside) | ⟨otherKey, otherMark, otherPart, hEntry, hPlaced⟩)
        · exact ⟨key, mark, part, by simp, Or.inl (by simpa [Step.extend] using hHere)⟩
        · exact ⟨key, mark, part, by simp, Or.inr hInside⟩
        · exact ⟨otherKey, otherMark, otherPart, by simp [hEntry], hPlaced⟩
      · rintro ⟨otherKey, otherMark, otherPart, hEntry, hPlaced⟩
        rcases List.mem_cons.1 hEntry with hEqual | hLater
        · obtain ⟨rfl, rfl, rfl⟩ : otherKey = key ∧ otherMark = mark ∧ otherPart = part := by
            simpa using hEqual
          rcases hPlaced with hHere | hInside
          · exact Or.inl (Or.inl (by simpa [Step.extend] using hHere))
          · exact Or.inl (Or.inr hInside)
        · exact Or.inr ⟨otherKey, otherMark, otherPart, hLater, hPlaced⟩

theorem mem_places_of_part? {datum part : Datum} {step : Step} {mark : Option Mark}
    (hPart : datum.part? step = some (mark, part))
    (hPlaced : IsPlaced (Step.extend path step) mark part place) : place ∈ datum.places path := by
  unfold part? at hPart
  split at hPart
  · next items position =>
    exact mem_itemPlaces_iff.2 ⟨position, mark, part, hPart, by rwa [Nat.zero_add]⟩
  · next entries name =>
    obtain ⟨⟨key, reached⟩, hFound, rfl⟩ := Option.map_eq_some_iff.1 hPart
    obtain rfl : keyText key = name := by simpa using List.find?_some hFound
    exact mem_entryPlaces_iff.2
      ⟨key, mark, part, List.mem_reverse.1 (List.mem_of_find?_eq_some hFound), hPlaced⟩
  · cases hPart

theorem mem_places_of_reach? {root part : Datum} {location : List Step} {mark : Mark}
    (hLocation : location ≠ []) (hReach : root.reach? location = some (some mark, part)) :
    (location.foldl Step.extend path, mark) ∈ root.places path := by
  induction location generalizing root path with
  | nil => contradiction
  | cons step location ih =>
      rw [reach?_cons] at hReach
      obtain ⟨⟨firstMark, first⟩, hFirst, hRest⟩ := Option.bind_eq_some_iff.1 hReach
      apply mem_places_of_part? hFirst
      by_cases hLast : location = []
      · subst hLast
        obtain ⟨rfl, rfl⟩ : firstMark = some mark ∧ first = part := by simpa using hRest
        exact Or.inl rfl
      · rw [if_neg hLast] at hRest
        exact Or.inr (ih hLast hRest)

theorem lastMark?_eq_mark? {root : Datum} {location before : List Step}
    (hApart : root.KeepsApart location) (hBefore : before ∈ beginnings location) :
    root.lastMark? (locationPath before) = root.mark? before := by
  cases hFound : (root.places "").reverse.find? fun place => place.1 == locationPath before with
  | none =>
      rw [lastMark?, hFound]
      cases hMark : root.mark? before with
      | none => rfl
      | some mark =>
          obtain ⟨⟨reached, part⟩, hReach, rfl⟩ := Option.bind_eq_some_iff.1 hMark
          have hRecorded : (locationPath before, mark) ∈ root.places "" :=
            mem_places_of_reach? (mem_beginnings.1 hBefore).1 hReach
          have hNone := List.find?_eq_none.1 hFound _ (List.mem_reverse.2 hRecorded)
          simp at hNone
  | some place =>
      obtain ⟨text, mark⟩ := place
      obtain rfl : text = locationPath before := by simpa using List.find?_some hFound
      have hRecorded := List.mem_reverse.1 (List.mem_of_find?_eq_some hFound)
      rw [lastMark?, hFound, hApart before hBefore mark hRecorded]
      rfl

theorem findSome?_lastMark? {root : Datum} {location : List Step}
    (hApart : root.KeepsApart location) :
    ((beginnings location).findSome? fun before => root.lastMark? (locationPath before)) =
      root.nearestMark? location := by
  rw [nearestMark?, ← List.head?_filterMap, ← List.head?_filterMap]
  congr 1
  exact List.filterMap_congr fun before hBefore => lastMark?_eq_mark? hApart hBefore

end

/-! ## Plain keys -/

/-- The keys of a mapping are plain and have different texts. -/
def arePlain (entries : Entries) : Bool :=
  let names := entries.map fun entry => keyText entry.1
  decide names.Nodup && names.all Step.isPlainKey

mutual

/-- The keys of all mappings are plain and have different texts. -/
def hasPlainKeys : Datum → Bool
  | sequence items => itemsHavePlainKeys items
  | mapping entries => arePlain entries && entriesHavePlainKeys entries
  | _ => true

def itemsHavePlainKeys : List (Option Mark × Datum) → Bool
  | [] => true
  | (_, datum) :: items => datum.hasPlainKeys && itemsHavePlainKeys items

def entriesHavePlainKeys : Entries → Bool
  | [] => true
  | (_, _, datum) :: entries => datum.hasPlainKeys && entriesHavePlainKeys entries

end

section

variable {path : Points} {place : Points × Mark}

theorem hasPlainKeys_of_item {items : List (Option Mark × Datum)} {mark : Option Mark}
    {part : Datum} (hItems : itemsHavePlainKeys items = true) (hItem : (mark, part) ∈ items) :
    part.hasPlainKeys = true := by
  induction items with
  | nil => cases hItem
  | cons item items ih =>
      obtain ⟨first, other⟩ := item
      simp only [itemsHavePlainKeys, Bool.and_eq_true] at hItems
      rcases List.mem_cons.1 hItem with hEqual | hLater
      · cases hEqual
        exact hItems.1
      · exact ih hItems.2 hLater

theorem hasPlainKeys_of_entry {entries : Entries} {key : Value} {mark : Option Mark}
    {part : Datum} (hEntries : entriesHavePlainKeys entries = true)
    (hEntry : (key, mark, part) ∈ entries) : part.hasPlainKeys = true := by
  induction entries with
  | nil => cases hEntry
  | cons entry entries ih =>
      obtain ⟨first, other⟩ := entry
      simp only [entriesHavePlainKeys, Bool.and_eq_true] at hEntries
      rcases List.mem_cons.1 hEntry with hEqual | hLater
      · cases hEqual
        exact hEntries.1
      · exact ih hEntries.2 hLater

theorem part?_of_mem {entries : Entries} {key : Value} {mark : Option Mark} {part : Datum}
    (hPlain : arePlain entries = true) (hEntry : (key, mark, part) ∈ entries) :
    (mapping entries).part? (.key (keyText key)) = some (mark, part) := by
  simp only [arePlain, Bool.and_eq_true, decide_eq_true_eq] at hPlain
  rw [part?]
  cases hFound : entries.reverse.find? fun entry => keyText entry.1 == keyText key with
  | none =>
      have hNone := List.find?_eq_none.1 hFound _ (List.mem_reverse.2 hEntry)
      simp at hNone
  | some entry =>
      have hText : keyText entry.1 = keyText key := by simpa using List.find?_some hFound
      have hMem := List.mem_reverse.1 (List.mem_of_find?_eq_some hFound)
      rw [List.inj_on_of_nodup_map hPlain.1 hMem hEntry hText]
      rfl

theorem isPlain_of_mem {entries : Entries} {key : Value} {mark : Option Mark} {part : Datum}
    (hPlain : arePlain entries = true) (hEntry : (key, mark, part) ∈ entries) :
    (Step.key (keyText key)).IsPlain := by
  simp only [arePlain, Bool.and_eq_true, List.all_eq_true, List.mem_map] at hPlain
  exact hPlain.2 _ ⟨_, hEntry, rfl⟩

/-- A record is the place of the part that a plain location leads to. -/
def IsRecordOfPart (datum : Datum) (path : Points) (place : Points × Mark) : Prop :=
  ∃ location part, location ≠ [] ∧ (∀ step ∈ location, step.IsPlain) ∧
    datum.reach? location = some (some place.2, part) ∧ place.1 = location.foldl Step.extend path

/-- A record of a part is seen from the owner of the part by one more step. -/
theorem isRecordOfPart_of_part? {datum part : Datum} {step : Step} {mark : Option Mark}
    (hStep : step.IsPlain) (hPart : datum.part? step = some (mark, part))
    (hPlaced : IsPlaced (Step.extend path step) mark part place)
    (hInside : place ∈ part.places (Step.extend path step) →
      part.IsRecordOfPart (Step.extend path step) place) : datum.IsRecordOfPart path place := by
  rcases hPlaced with hHere | hBelow
  · obtain ⟨found, rfl, rfl⟩ := Option.map_eq_some_iff.1 hHere
    exact ⟨[step], part, by simp, by simpa using hStep, by simp [reach?_cons, hPart], rfl⟩
  · obtain ⟨location, found, hSome, hPlain, hReach, hPath⟩ := hInside hBelow
    refine ⟨step :: location, found, by simp, by simpa using ⟨hStep, hPlain⟩, ?_, hPath⟩
    simp [reach?_cons, hPart, hSome, hReach]

theorem isRecordOfPart_of_hasPlainKeys : ∀ (datum : Datum) {path : Points},
    datum.hasPlainKeys = true → place ∈ datum.places path → datum.IsRecordOfPart path place
  | leaf _, _, _, hPlace => by cases hPlace
  | aliasOf _, _, _, hPlace => by cases hPlace
  | sequence items, path, hKeys, hPlace => by
      obtain ⟨position, mark, part, hItem, hPlaced⟩ := mem_itemPlaces_iff.1 hPlace
      rw [Nat.zero_add] at hPlaced
      have hMem := List.mem_of_getElem? hItem
      refine isRecordOfPart_of_part? (show (Step.index position).IsPlain from trivial) hItem
        hPlaced fun hBelow => ?_
      exact isRecordOfPart_of_hasPlainKeys part (hasPlainKeys_of_item hKeys hMem) hBelow
  | mapping entries, path, hKeys, hPlace => by
      obtain ⟨key, mark, part, hEntry, hPlaced⟩ := mem_entryPlaces_iff.1 hPlace
      simp only [hasPlainKeys, Bool.and_eq_true] at hKeys
      refine isRecordOfPart_of_part? (isPlain_of_mem hKeys.1 hEntry)
        (part?_of_mem hKeys.1 hEntry) hPlaced fun hBelow => ?_
      exact isRecordOfPart_of_hasPlainKeys part (hasPlainKeys_of_entry hKeys.2 hEntry) hBelow
termination_by datum => sizeOf datum
decreasing_by
  · have hSize := List.sizeOf_lt_of_mem hMem
    simp only [Prod.mk.sizeOf_spec, sequence.sizeOf_spec] at hSize ⊢
    omega
  · have hSize := List.sizeOf_lt_of_mem hEntry
    simp only [Prod.mk.sizeOf_spec, mapping.sizeOf_spec] at hSize ⊢
    omega

/-- In a document with plain keys, parts are kept apart by their paths. -/
theorem keepsApart_of_hasPlainKeys {root : Datum} {location : List Step}
    (hKeys : root.hasPlainKeys = true) (hLocation : ∀ step ∈ location, step.IsPlain) :
    root.KeepsApart location := by
  intro before hBefore mark hRecorded
  obtain ⟨found, part, -, hPlain, hReach, hPath⟩ :=
    isRecordOfPart_of_hasPlainKeys root hKeys hRecorded
  have hBeforePlain : ∀ step ∈ before, step.IsPlain :=
    fun step hStep => hLocation step ((mem_beginnings.1 hBefore).2.subset hStep)
  obtain rfl : before = found := locationPath_injective hBeforePlain hPlain hPath
  rw [mark?, hReach]
  rfl

end

/-! ## Values of parts -/

theorem get?_entryValues (name : String) (entries : Entries) (made : List (Value × Value)) :
    (Value.mapping (entryValues made entries)).get? name =
      (((mapping entries).part? (.key name)).map fun reached => reached.2.toValue).or
        ((Value.mapping made).get? name) := by
  induction entries generalizing made with
  | nil => simp [entryValues, part?]
  | cons entry entries ih =>
      obtain ⟨key, mark, datum⟩ := entry
      rw [entryValues, ih, Value.get?_insertEntry]
      simp only [part?, List.reverse_cons, List.find?_append]
      by_cases hKey : keyText key = name
      · cases entries.reverse.find? fun entry => keyText entry.1 == name <;> simp [hKey]
      · cases entries.reverse.find? fun entry => keyText entry.1 == name <;> simp [hKey]

theorem getElem?_itemValues (items : List (Option Mark × Datum)) (position : Nat) :
    (itemValues items)[position]? = items[position]?.map fun item => item.2.toValue := by
  induction items generalizing position with
  | nil => simp [itemValues]
  | cons item items ih =>
      obtain ⟨mark, datum⟩ := item
      cases position with
      | zero => simp [itemValues]
      | succ position => simpa [itemValues] using ih position

theorem hasScalarLeaves_of_part? {datum part : Datum} {step : Step} {mark : Option Mark}
    (hDatum : datum.HasScalarLeaves) (hPart : datum.part? step = some (mark, part)) :
    part.HasScalarLeaves := by
  unfold part? at hPart
  split at hPart
  · cases hDatum with
    | sequence hItems => exact hItems (mark, part) (List.mem_of_getElem? hPart)
  · obtain ⟨⟨key, reached⟩, hFound, rfl⟩ := Option.map_eq_some_iff.1 hPart
    cases hDatum with
    | mapping hEntries =>
        exact hEntries _ (List.mem_reverse.1 (List.mem_of_find?_eq_some hFound))
  · cases hPart

theorem exists_part?_of_get? {datum : Datum} {name : String} {value : Value}
    (hDatum : datum.HasScalarLeaves) (hValue : datum.toValue.get? name = some value) :
    ∃ mark part, datum.part? (.key name) = some (mark, part) ∧ part.toValue = value := by
  cases hDatum with
  | leaf hScalar =>
      next leaf =>
      cases leaf <;> contradiction
  | sequence hItems => simp [toValue, Value.get?] at hValue
  | mapping hEntries =>
      next entries =>
      rw [toValue, get?_entryValues] at hValue
      cases hPart : (mapping entries).part? (.key name) with
      | none => simp [hPart, Value.get?] at hValue
      | some reached =>
          rw [hPart] at hValue
          exact ⟨reached.1, reached.2, rfl, by simpa using hValue⟩
  | aliasOf target => simp [toValue, Value.get?] at hValue

theorem exists_part?_of_getElem? {datum : Datum} {position : Nat} {values : List Value}
    {value : Value} (hDatum : datum.HasScalarLeaves) (hValues : datum.toValue = .list values)
    (hValue : values[position]? = some value) :
    ∃ mark part, datum.part? (.index position) = some (mark, part) ∧ part.toValue = value := by
  cases hDatum with
  | leaf hScalar =>
      next leaf =>
      obtain rfl : leaf = .list values := by simpa [toValue] using hValues
      contradiction
  | sequence hItems =>
      next items =>
      obtain rfl : itemValues items = values := by simpa [toValue] using hValues
      rw [getElem?_itemValues] at hValue
      obtain ⟨⟨mark, part⟩, hItem, hPart⟩ := Option.map_eq_some_iff.1 hValue
      exact ⟨mark, part, hItem, hPart⟩
  | mapping hEntries => simp [toValue] at hValues
  | aliasOf target => simp [toValue] at hValues

theorem exists_reach?_of_getElem? {root : Datum} {name : String} {position : Nat}
    {values : List Value} {value : Value} (hRoot : root.HasScalarLeaves)
    (hValues : root.toValue.get? name = some (.list values))
    (hValue : values[position]? = some value) :
    ∃ mark part, root.reach? [.key name, .index position] = some (mark, part) ∧
      part.toValue = value := by
  obtain ⟨listMark, list, hList, hListValue⟩ := exists_part?_of_get? hRoot hValues
  obtain ⟨mark, part, hItem, hPart⟩ :=
    exists_part?_of_getElem? (hasScalarLeaves_of_part? hRoot hList) hListValue hValue
  exact ⟨mark, part, by simp [reach?_cons, hList, hItem], hPart⟩

end Yaml.Datum

end SqlDialects
