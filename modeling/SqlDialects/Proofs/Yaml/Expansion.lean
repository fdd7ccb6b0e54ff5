import SqlDialects.Yaml.Document

/-!
# Expansion of counted documents

A count of nodes counts a node each time that it is reached.  So a document whose count
stays within a limit has no alias that leads back to itself, and the limit tells how much
fuel its expansion needs.
-/

namespace SqlDialects.Yaml.Document

variable {document : Document} {limit : Nat}

/-- What is counted first can be expanded with fuel for the nodes that it takes off the
limit, and the rest is counted against what is left. -/
def ExpandsFirst (document : Document) (limit : Nat) : Prop :=
  ∀ datum rest, document.exceeds limit (datum :: rest) = false →
    ∃ left < limit, document.exceeds left rest = false ∧
      ∀ fuel, 2 * (limit - left) ≤ fuel → ∃ value, document.expand fuel datum = .ok value

theorem expandItems_of_not_exceeds {items : List (Option Mark × Datum)} {rest : List Datum}
    (hCounted : document.exceeds limit (items.map Prod.snd ++ rest) = false)
    (hFirst : ∀ smaller ≤ limit, document.ExpandsFirst smaller) :
    ∃ left ≤ limit, document.exceeds left rest = false ∧
      ∀ fuel made, 2 * (limit - left) + 1 ≤ fuel →
        ∃ values, document.expandItems fuel items made = .ok values := by
  induction items generalizing limit with
  | nil =>
      refine ⟨limit, Nat.le_refl limit, hCounted, fun fuel made hFuel => ?_⟩
      obtain ⟨fuel, rfl⟩ := Nat.exists_eq_succ_of_ne_zero (by omega : fuel ≠ 0)
      exact ⟨_, rfl⟩
  | cons item items ih =>
      obtain ⟨mark, datum⟩ := item
      obtain ⟨middle, hMiddle, hOthers, hDatum⟩ :=
        hFirst limit (Nat.le_refl limit) datum _ hCounted
      obtain ⟨left, hLeft, hRest, hItems⟩ :=
        ih hOthers fun smaller hSmaller => hFirst smaller (by omega)
      refine ⟨left, by omega, hRest, fun fuel made hFuel => ?_⟩
      obtain ⟨fuel, rfl⟩ := Nat.exists_eq_succ_of_ne_zero (by omega : fuel ≠ 0)
      obtain ⟨value, hValue⟩ := hDatum fuel (by omega)
      rw [expandItems, hValue]
      exact hItems fuel _ (by omega)

theorem exists_expandEntries {fuel : Nat} {entries : Entries} (made : Entries)
    {madeItems values : List (Option Mark × Datum)}
    (hItems : document.expandItems fuel (entries.map Prod.snd) madeItems = .ok values) :
    ∃ values, document.expandEntries fuel entries made = .ok values := by
  induction entries generalizing fuel made madeItems with
  | nil =>
      cases fuel with
      | zero => cases hItems
      | succ fuel => exact ⟨_, rfl⟩
  | cons entry entries ih =>
      obtain ⟨key, mark, datum⟩ := entry
      cases fuel with
      | zero => cases hItems
      | succ fuel =>
          rw [List.map_cons, expandItems] at hItems
          rw [expandEntries]
          cases hDatum : document.expand fuel datum with
          | error fault =>
              rw [hDatum] at hItems
              cases hItems
          | ok value =>
              rw [hDatum] at hItems
              exact ih _ hItems

theorem expandsFirst (document : Document) (limit : Nat) : document.ExpandsFirst limit := by
  induction limit using Nat.strongRecOn with
  | ind limit ih =>
    intro datum rest hCounted
    cases limit with
    | zero => simp [exceeds] at hCounted
    | succ limit =>
        rw [exceeds] at hCounted
        have hFirst : ∀ smaller ≤ limit, document.ExpandsFirst smaller :=
          fun smaller hSmaller => ih smaller (by omega)
        -- Whatever the value is, its children are counted first and then the rest.
        cases hTarget : document.target datum with
        | leaf value =>
            refine ⟨limit, by omega, by simpa [children, hTarget] using hCounted, ?_⟩
            intro fuel hFuel
            obtain ⟨fuel, rfl⟩ := Nat.exists_eq_succ_of_ne_zero (by omega : fuel ≠ 0)
            exact ⟨.leaf value, by simp [expand, hTarget]⟩
        | aliasOf target =>
            refine ⟨limit, by omega, by simpa [children, hTarget] using hCounted, ?_⟩
            intro fuel hFuel
            obtain ⟨fuel, rfl⟩ := Nat.exists_eq_succ_of_ne_zero (by omega : fuel ≠ 0)
            exact ⟨.aliasOf target, by simp [expand, hTarget]⟩
        | sequence items =>
            simp only [children, hTarget] at hCounted
            obtain ⟨left, hLeft, hRest, hItems⟩ := expandItems_of_not_exceeds hCounted hFirst
            refine ⟨left, by omega, hRest, fun fuel hFuel => ?_⟩
            obtain ⟨fuel, rfl⟩ := Nat.exists_eq_succ_of_ne_zero (by omega : fuel ≠ 0)
            obtain ⟨values, hValues⟩ := hItems fuel [] (by omega)
            exact ⟨.sequence values, by simp [expand, hTarget, hValues, Except.map]⟩
        | mapping entries =>
            have hItemsCounted : document.exceeds limit
                ((entries.map Prod.snd).map Prod.snd ++ rest) = false := by
              simpa [children, hTarget, Function.comp_def] using hCounted
            obtain ⟨left, hLeft, hRest, hItems⟩ :=
              expandItems_of_not_exceeds hItemsCounted hFirst
            refine ⟨left, by omega, hRest, fun fuel hFuel => ?_⟩
            obtain ⟨fuel, rfl⟩ := Nat.exists_eq_succ_of_ne_zero (by omega : fuel ≠ 0)
            obtain ⟨items, hValues⟩ := hItems fuel [] (by omega)
            obtain ⟨values, hValues⟩ := exists_expandEntries [] hValues
            exact ⟨.mapping values, by simp [expand, hTarget, hValues, Except.map]⟩

/-- A document that does not exceed a limit on its nodes is expanded within that limit. -/
theorem expand_of_not_exceeds {fuel : Nat} {datum : Datum}
    (hCounted : document.exceeds limit [datum] = false) (hFuel : 2 * limit ≤ fuel) :
    ∃ value, document.expand fuel datum = .ok value := by
  obtain ⟨left, -, -, hExpands⟩ := expandsFirst document limit datum [] hCounted
  exact hExpands fuel (by omega)

end SqlDialects.Yaml.Document
