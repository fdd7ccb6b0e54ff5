import Mathlib.Data.List.Induction
import Mathlib.Data.List.Nodup
import Mathlib.Data.List.TakeWhile
import SqlDialects.Registry

/-!
# Histories of a registry

A registry is an insertion-ordered map whose keys are the names of its dialects.  What it
holds after any calls is fixed by the dialects that were registered since it was last
cleared: their names, in the order of their first registrations, each with the dialect that
took the name last.  One step keeps this (`IsOrdered.place`), and a history of calls is a
sequence of steps (`isOrdered_after`).
-/

namespace SqlDialects.Registry

open Text (Points)

/-! ## Calls -/

inductive Call where
  | register (dialect : Dialect)
  | get (name : Points)
  | resolve (scheme : Points)
  | forUrl (url : Points)
  | available
  | dialects
  | reset

def Call.isLookup : Call → Bool
  | .register _ | .reset => false
  | .get _ | .resolve _ | .forUrl _ | .available | .dialects => true

/-- The registry that a call leaves, whatever its answer is. -/
def next (registry : Registry) : Call → Registry
  | .register dialect => registry.register dialect
  | .reset => empty
  | .get _ | .resolve _ | .forUrl _ | .available | .dialects => registry

def after (registry : Registry) (calls : List Call) : Registry :=
  calls.foldl next registry

/-- The dialects that were registered since the last reset, the first one first. -/
def registrations (made : List Dialect) : List Call → List Dialect
  | [] => made
  | .register dialect :: calls => registrations (made ++ [dialect]) calls
  | .reset :: calls => registrations [] calls
  | .get _ :: calls | .resolve _ :: calls | .forUrl _ :: calls | .available :: calls
  | .dialects :: calls => registrations made calls

/-! ## Registrations -/

/-- The registration of a dialect that no later one of the same name has followed. -/
def IsNewest (made : List Dialect) (name : String) (dialect : Dialect) : Prop :=
  ∃ earlier later, made = earlier ++ dialect :: later ∧ dialect.name = name ∧
    name ∉ later.map Dialect.name

theorem IsNewest.mem_names {made : List Dialect} {name : String} {dialect : Dialect}
    (hNewest : IsNewest made name dialect) : name ∈ made.map Dialect.name := by
  obtain ⟨earlier, later, rfl, rfl, -⟩ := hNewest
  simp

theorem isNewest_concat (made : List Dialect) (dialect : Dialect) :
    IsNewest (made ++ [dialect]) dialect.name dialect :=
  ⟨made, [], rfl, rfl, by simp⟩

theorem IsNewest.concat {made : List Dialect} {name : String} {dialect other : Dialect}
    (hNewest : IsNewest made name dialect) (hOther : other.name ≠ name) :
    IsNewest (made ++ [other]) name dialect := by
  obtain ⟨earlier, later, rfl, hName, hLater⟩ := hNewest
  refine ⟨earlier, later ++ [other], by simp, hName, ?_⟩
  simpa [Ne.symm hOther] using hLater

theorem isNewest_nil {name : String} {dialect : Dialect} : ¬IsNewest [] name dialect := by
  rintro ⟨earlier, later, hSplit, -⟩
  simp at hSplit

/-- What is newest was registered last or was the newest before. -/
theorem isNewest_concat_iff {made : List Dialect} {name : String} {dialect other : Dialect} :
    IsNewest (made ++ [other]) name dialect ↔
      if other.name = name then dialect = other else IsNewest made name dialect := by
  constructor
  · rintro ⟨earlier, later, hSplit, hName, hLater⟩
    rcases List.eq_nil_or_concat' later with rfl | ⟨middle, last, rfl⟩
    · obtain ⟨-, hEqual⟩ := List.append_inj' hSplit rfl
      obtain rfl : other = dialect := by simpa using hEqual
      rw [if_pos hName]
    · rw [← List.cons_append, ← List.append_assoc] at hSplit
      obtain ⟨rfl, hEqual⟩ := List.append_inj' hSplit rfl
      obtain rfl : other = last := by simpa using hEqual
      have hOther : other.name ≠ name := by
        rintro rfl
        simp at hLater
      rw [if_neg hOther]
      refine ⟨earlier, middle, rfl, hName, ?_⟩
      simp only [List.map_append, List.mem_append, not_or] at hLater
      exact hLater.1
  · split
    · next hName =>
      rintro rfl
      exact hName ▸ isNewest_concat made dialect
    · next hName =>
      intro hNewest
      exact hNewest.concat hName

theorem IsNewest.unique {made : List Dialect} {name : String} {first second : Dialect}
    (hFirst : IsNewest made name first) (hSecond : IsNewest made name second) :
    first = second := by
  induction made using List.reverseRecOn with
  | nil => exact absurd hFirst isNewest_nil
  | append_singleton made other ih =>
      rw [isNewest_concat_iff] at hFirst hSecond
      split at hFirst
      · next hName =>
        rw [if_pos hName] at hSecond
        exact hFirst.trans hSecond.symm
      · next hName =>
        rw [if_neg hName] at hSecond
        exact ih hFirst hSecond

/-! ## Placing a dialect -/

theorem place_of_mem {dialect : Dialect} {dialects : List Dialect}
    (hNodup : (dialects.map Dialect.name).Nodup)
    (hMem : dialect.name ∈ dialects.map Dialect.name) :
    place dialect dialects =
      dialects.map fun other => if other.name = dialect.name then dialect else other := by
  induction dialects with
  | nil => cases hMem
  | cons other others ih =>
      rw [List.map_cons, List.nodup_cons] at hNodup
      by_cases hName : other.name = dialect.name
      · -- No later dialect has the name, so all of them stay.
        have hOthers : (others.map fun other =>
            if other.name = dialect.name then dialect else other) = others := by
          refine (List.map_congr_left fun later hLater => if_neg fun hSame => ?_).trans
            (List.map_id others)
          exact hNodup.1 (List.mem_map.2 ⟨later, hLater, hSame.trans hName.symm⟩)
        simp [place, hName, hOthers]
      · have hRest : dialect.name ∈ others.map Dialect.name := by
          rw [List.map_cons, List.mem_cons] at hMem
          exact hMem.resolve_left fun hSame => hName hSame.symm
        simp [place, hName, ih hNodup.2 hRest]

theorem place_of_not_mem {dialect : Dialect} {dialects : List Dialect}
    (hMem : dialect.name ∉ dialects.map Dialect.name) :
    place dialect dialects = dialects ++ [dialect] := by
  induction dialects with
  | nil => rfl
  | cons other others ih =>
      rw [List.map_cons, List.mem_cons, not_or] at hMem
      simp [place, Ne.symm hMem.1, ih hMem.2]

theorem map_name_place (dialect : Dialect) {dialects : List Dialect}
    (hNodup : (dialects.map Dialect.name).Nodup) :
    (place dialect dialects).map Dialect.name =
      if dialect.name ∈ dialects.map Dialect.name then dialects.map Dialect.name
      else dialects.map Dialect.name ++ [dialect.name] := by
  split
  · next hMem =>
    rw [place_of_mem hNodup hMem, List.map_map]
    apply List.map_congr_left
    intro other _
    by_cases hName : other.name = dialect.name <;> simp [hName]
  · next hMem =>
    rw [place_of_not_mem hMem, List.map_append]
    rfl

theorem mem_place {dialect other : Dialect} {dialects : List Dialect}
    (hNodup : (dialects.map Dialect.name).Nodup) (hOther : other ∈ place dialect dialects) :
    other = dialect ∨ (other ∈ dialects ∧ other.name ≠ dialect.name) := by
  by_cases hMem : dialect.name ∈ dialects.map Dialect.name
  · rw [place_of_mem hNodup hMem] at hOther
    obtain ⟨origin, hOrigin, hEqual⟩ := List.mem_map.1 hOther
    split at hEqual
    · exact .inl hEqual.symm
    · next hName => exact .inr ⟨hEqual ▸ hOrigin, hEqual ▸ hName⟩
  · rw [place_of_not_mem hMem, List.mem_append, List.mem_singleton] at hOther
    rcases hOther with hOld | hNew
    · exact .inr ⟨hOld, fun hName => hMem (hName ▸ List.mem_map_of_mem hOld)⟩
    · exact .inl hNew

theorem eraseDups_concat (names : List String) (name : String) :
    (names ++ [name]).eraseDups =
      if name ∈ names then names.eraseDups else names.eraseDups ++ [name] := by
  rw [List.eraseDups_append]
  by_cases hMem : name ∈ names <;> simp [List.removeAll, List.eraseDups_cons, hMem]

/-! ## The invariant -/

/-- The registered names in the order of their first registrations, each with the dialect
that took it last. -/
structure IsOrdered (made dialects : List Dialect) : Prop where
  nodup : (dialects.map Dialect.name).Nodup
  names : dialects.map Dialect.name = (made.map Dialect.name).eraseDups
  newest : ∀ dialect ∈ dialects, IsNewest made dialect.name dialect

theorem isOrdered_empty : IsOrdered [] empty.dialects :=
  ⟨List.nodup_nil, rfl, by simp [empty]⟩

namespace IsOrdered

variable {made dialects : List Dialect}

theorem mem_names_iff (hOrdered : IsOrdered made dialects) (name : String) :
    name ∈ dialects.map Dialect.name ↔ name ∈ made.map Dialect.name := by
  rw [hOrdered.names, List.mem_eraseDups]

theorem place (hOrdered : IsOrdered made dialects) (dialect : Dialect) :
    IsOrdered (made ++ [dialect]) (Registry.place dialect dialects) := by
  have hNames := map_name_place dialect hOrdered.nodup
  constructor
  case nodup =>
    rw [hNames]
    split
    · exact hOrdered.nodup
    · next hMem =>
      rw [← List.concat_eq_append, List.nodup_concat]
      exact ⟨hMem, hOrdered.nodup⟩
  case names =>
    have hSame := hOrdered.mem_names_iff dialect.name
    rw [hNames, List.map_append, List.map_singleton, eraseDups_concat, ← hOrdered.names]
    simp only [hSame]
  case newest =>
    intro other hOther
    rcases mem_place hOrdered.nodup hOther with rfl | ⟨hOld, hName⟩
    · exact isNewest_concat made other
    · exact (hOrdered.newest other hOld).concat (Ne.symm hName)

theorem mem_iff (hOrdered : IsOrdered made dialects) (dialect : Dialect) :
    dialect ∈ dialects ↔ IsNewest made dialect.name dialect := by
  constructor
  · exact hOrdered.newest dialect
  · intro hNewest
    obtain ⟨other, hOther, hName⟩ :=
      List.mem_map.1 ((hOrdered.mem_names_iff _).2 hNewest.mem_names)
    have hOtherNewest := hOrdered.newest other hOther
    rw [hName] at hOtherNewest
    exact hNewest.unique hOtherNewest ▸ hOther

end IsOrdered

theorem isOrdered_after (calls : List Call) {made : List Dialect} {registry : Registry}
    (hOrdered : IsOrdered made registry.dialects) :
    IsOrdered (registrations made calls) (after registry calls).dialects := by
  induction calls generalizing made registry with
  | nil => exact hOrdered
  | cons call calls ih =>
      cases call with
      | register dialect =>
          have hPlaced : IsOrdered (made ++ [dialect]) (registry.register dialect).dialects :=
            hOrdered.place dialect
          exact ih hPlaced
      | reset => exact ih isOrdered_empty
      | get name => exact ih hOrdered
      | resolve scheme => exact ih hOrdered
      | forUrl url => exact ih hOrdered
      | available => exact ih hOrdered
      | dialects => exact ih hOrdered

theorem isOrdered_builtin : IsOrdered builtin.dialects builtin.dialects :=
  isOrdered_after (Dialect.builtin.map Call.register) isOrdered_empty

/-! ## Lookups -/

/-- A scheme of a URL: its longest beginning without colons and plus signs. -/
structure IsScheme (scheme url : Points) : Prop where
  begins : scheme.toList <+: url.toList
  plain : ∀ point ∈ scheme.toList, point ≠ ':' ∧ point ≠ '+'
  longest : ∀ other : Points, other.toList <+: url.toList →
    (∀ point ∈ other.toList, point ≠ ':' ∧ point ≠ '+') → other.length ≤ scheme.length

theorem toList_urlScheme (url : Points) :
    (urlScheme url).toList =
      url.toList.takeWhile fun point => decide (point ≠ .char '+' ∧ point ≠ .char ':') := by
  rw [urlScheme, List.takeWhile_takeWhile]
  congr
  funext point
  simp

theorem isScheme_urlScheme (url : Points) : IsScheme (urlScheme url) url := by
  constructor
  case begins =>
    rw [toList_urlScheme]
    exact List.takeWhile_prefix _
  case plain =>
    intro point hMem
    rw [toList_urlScheme] at hMem
    have hPlain := List.mem_takeWhile_imp hMem
    exact (of_decide_eq_true hPlain).symm
  case longest =>
    intro other hBegins hPlain
    obtain ⟨rest, hUrl⟩ := hBegins
    have hAll : ∀ point ∈ other.toList, decide (point ≠ .char '+' ∧ point ≠ .char ':') = true :=
      fun point hMem => decide_eq_true (hPlain point hMem).symm
    rw [Points.length, Points.length, toList_urlScheme, ← hUrl,
      List.takeWhile_append_of_pos hAll, List.length_append]
    omega

theorem IsScheme.eq_urlScheme {scheme url : Points} (hScheme : IsScheme scheme url) :
    scheme = urlScheme url := by
  have hUrl := isScheme_urlScheme url
  have hLength : scheme.toList.length = (urlScheme url).toList.length :=
    Nat.le_antisymm (hUrl.longest scheme hScheme.begins hScheme.plain)
      (hScheme.longest _ hUrl.begins hUrl.plain)
  rw [← Points.toList_inj]
  exact (List.prefix_of_prefix_length_le hScheme.begins hUrl.begins hLength.le).eq_of_length hLength

/-- The first dialect that matches a scheme. -/
def IsFirstMatch (dialects : List Dialect) (scheme : Points) (dialect : Dialect) : Prop :=
  ∃ before later, dialects = before ++ dialect :: later ∧
    dialect.matchesScheme scheme = true ∧ ∀ other ∈ before, other.matchesScheme scheme = false

theorem resolve_eq_ok_iff (registry : Registry) (scheme : Points) (dialect : Dialect) :
    registry.resolve scheme = .ok dialect ↔ IsFirstMatch registry.dialects scheme dialect := by
  have hFirst : registry.dialects.find? (fun other => other.matchesScheme scheme) = some dialect ↔
      IsFirstMatch registry.dialects scheme dialect := by
    rw [List.find?_eq_some_iff_append]
    constructor
    · rintro ⟨hMatch, before, later, hSplit, hBefore⟩
      exact ⟨before, later, hSplit, hMatch, by simpa using hBefore⟩
    · rintro ⟨before, later, hSplit, hMatch, hBefore⟩
      exact ⟨hMatch, before, later, hSplit, by simpa using hBefore⟩
  rw [← hFirst, resolve]
  cases registry.dialects.find? fun other => other.matchesScheme scheme <;> simp

theorem resolve_eq_error_iff (registry : Registry) (scheme : Points) (error : UnsupportedDialect) :
    registry.resolve scheme = .error error ↔
      (∀ other ∈ registry.dialects, other.matchesScheme scheme = false) ∧
        error = ⟨scheme, registry.available⟩ := by
  have hNone : registry.dialects.find? (fun other => other.matchesScheme scheme) = none ↔
      ∀ other ∈ registry.dialects, other.matchesScheme scheme = false := by
    simp
  rw [← hNone, resolve]
  cases registry.dialects.find? fun other => other.matchesScheme scheme <;> simp [eq_comm]

theorem mem_available_iff (registry : Registry) (name : String) :
    name ∈ registry.available ↔ name ∈ registry.dialects.map Dialect.name :=
  (List.mergeSort_perm _ _).mem_iff

theorem pairwise_available {registry : Registry}
    (hNodup : (registry.dialects.map Dialect.name).Nodup) :
    registry.available.Pairwise (· < ·) := by
  have hSorted : registry.available.Pairwise fun first second =>
      (!decide (second < first)) = true := by
    refine List.pairwise_mergeSort ?_ ?_ _
    · intro first second third hFirst hSecond
      simp only [Bool.not_eq_true', decide_eq_false_iff_not, String.not_lt] at hFirst hSecond ⊢
      exact String.le_trans hFirst hSecond
    · intro first second
      simpa only [Bool.or_eq_true, Bool.not_eq_true', decide_eq_false_iff_not, String.not_lt] using
        String.le_total first second
  have hDistinct : registry.available.Nodup := (List.mergeSort_perm _ _).nodup_iff.2 hNodup
  refine (hSorted.and hDistinct).imp fun {first second} hBoth => ?_
  simp only [Bool.not_eq_true', decide_eq_false_iff_not, String.not_lt] at hBoth
  by_contra hNot
  exact hBoth.2 (String.le_antisymm hBoth.1 (String.not_lt.1 hNot))

theorem IsOrdered.get_eq_ok_iff {made : List Dialect} {registry : Registry}
    (hOrdered : IsOrdered made registry.dialects) (name : Points) (dialect : Dialect) :
    registry.get name = .ok dialect ↔
      .ofString dialect.name = name ∧ IsNewest made dialect.name dialect := by
  rw [get]
  cases hFound : registry.dialects.find? fun other => Points.ofString other.name == name with
  | none =>
      have hNone : ∀ other ∈ registry.dialects, ¬Points.ofString other.name = name := by
        simpa using hFound
      simp only [reduceCtorEq, false_iff, not_and]
      intro hName hNewest
      exact hNone dialect ((hOrdered.mem_iff dialect).2 hNewest) hName
  | some found =>
      have hName : .ofString found.name = name := by simpa using List.find?_some hFound
      have hNewest := hOrdered.newest found (List.mem_of_find?_eq_some hFound)
      simp only [Except.ok.injEq]
      constructor
      · rintro rfl
        exact ⟨hName, hNewest⟩
      · rintro ⟨hSame, hOther⟩
        rw [← hName, Points.ofString_inj] at hSame
        exact hNewest.unique (hSame ▸ hOther)

theorem IsOrdered.get_eq_error_iff {made : List Dialect} {registry : Registry}
    (hOrdered : IsOrdered made registry.dialects) (name : Points) (error : UnsupportedDialect) :
    registry.get name = .error error ↔
      (∀ known ∈ made.map Dialect.name, .ofString known ≠ name) ∧
        error = ⟨name, registry.available⟩ := by
  have hNames : (∀ known ∈ made.map Dialect.name, .ofString known ≠ name) ↔
      registry.dialects.find? (fun other => Points.ofString other.name == name) = none := by
    simp only [← hOrdered.mem_names_iff]
    simp
  rw [hNames, get]
  cases registry.dialects.find? fun other => Points.ofString other.name == name <;> simp [eq_comm]

/-! ## The theorem -/

/-- A registry as an insertion-ordered map of what was registered. -/
structure Reflects (made : List Dialect) (registry : Registry) : Prop where
  nodup : (registry.dialects.map Dialect.name).Nodup
  names : registry.dialects.map Dialect.name = (made.map Dialect.name).eraseDups
  mem : ∀ dialect, dialect ∈ registry.dialects ↔ IsNewest made dialect.name dialect
  replaces : ∀ dialect : Dialect, dialect.name ∈ made.map Dialect.name →
    (registry.register dialect).dialects =
      registry.dialects.map fun other => if other.name = dialect.name then dialect else other
  appends : ∀ dialect : Dialect, dialect.name ∉ made.map Dialect.name →
    (registry.register dialect).dialects = registry.dialects ++ [dialect]
  get_ok : ∀ name dialect, registry.get name = .ok dialect ↔
    .ofString dialect.name = name ∧ IsNewest made dialect.name dialect
  get_error : ∀ name error, registry.get name = .error error ↔
    (∀ known ∈ made.map Dialect.name, .ofString known ≠ name) ∧
      error = ⟨name, registry.available⟩
  available : registry.available.Pairwise (· < ·) ∧
    ∀ name, name ∈ registry.available ↔ name ∈ made.map Dialect.name
  resolve_ok : ∀ scheme dialect, registry.resolve scheme = .ok dialect ↔
    IsFirstMatch registry.dialects scheme dialect
  resolve_error : ∀ scheme error, registry.resolve scheme = .error error ↔
    (∀ other ∈ registry.dialects, other.matchesScheme scheme = false) ∧
      error = ⟨scheme, registry.available⟩
  forUrl : ∀ scheme url, IsScheme scheme url → registry.forUrl url = registry.resolve scheme
  lookups : ∀ calls : List Call, (∀ call ∈ calls, call.isLookup = true) →
    registry.after calls = registry

theorem IsOrdered.reflects {made : List Dialect} {registry : Registry}
    (hOrdered : IsOrdered made registry.dialects) : Reflects made registry where
  nodup := hOrdered.nodup
  names := hOrdered.names
  mem := hOrdered.mem_iff
  replaces dialect hKnown := place_of_mem hOrdered.nodup ((hOrdered.mem_names_iff _).2 hKnown)
  appends dialect hUnknown :=
    place_of_not_mem fun hMem => hUnknown ((hOrdered.mem_names_iff _).1 hMem)
  get_ok := hOrdered.get_eq_ok_iff
  get_error := hOrdered.get_eq_error_iff
  available := by
    refine ⟨pairwise_available hOrdered.nodup, fun name => ?_⟩
    rw [mem_available_iff, hOrdered.mem_names_iff]
  resolve_ok := resolve_eq_ok_iff registry
  resolve_error := resolve_eq_error_iff registry
  forUrl scheme url hScheme := by rw [forUrl, hScheme.eq_urlScheme]
  lookups calls hLookups := by
    induction calls with
    | nil => rfl
    | cons call calls ih =>
        have hStays : registry.next call = registry := by
          have hLookup := hLookups call (by simp)
          cases call <;> first | rfl | cases hLookup
        rw [after, List.foldl_cons, hStays]
        exact ih fun other hOther => hLookups other (by simp [hOther])

/-- After any calls a registry reflects the registrations since the last reset, where the
registry that the calls start from counts as registered in its order. -/
theorem reflects_after {start : Registry} (hStart : start = builtin ∨ start = empty)
    (calls : List Call) :
    Reflects (registrations start.dialects calls) (start.after calls) ∧
      ∀ url, IsScheme (urlScheme url) url := by
  have hOrdered : IsOrdered start.dialects start.dialects := by
    rcases hStart with rfl | rfl
    · exact isOrdered_builtin
    · exact isOrdered_empty
  exact ⟨(isOrdered_after calls hOrdered).reflects, isScheme_urlScheme⟩

/-- A dialect that takes the name of another one and the schemes of both. -/
def rivalDialect : Dialect :=
  Dialect.custom "mysql" "Rival" {} (some ["mysql", "postgresql"])

def rivalCalls : List Call :=
  [.forUrl "postgresql+psycopg://host/db", .register rivalDialect, .get "oracle",
    .forUrl "postgresql+psycopg://host/db"]

theorem reflects_after_rivalCalls :
    Reflects (registrations builtin.dialects rivalCalls) (builtin.after rivalCalls) ∧
      ∀ url, IsScheme (urlScheme url) url :=
  reflects_after (.inl rfl) rivalCalls

/-- The rival stands where the dialect of its name stood, and so it is the first match. -/
example : (builtin.after rivalCalls).dialects.map Dialect.kind =
    ["CustomDialect", "PostgresDialect", "SqliteDialect", "SqlServerDialect"] := by
  rfl

end SqlDialects.Registry
