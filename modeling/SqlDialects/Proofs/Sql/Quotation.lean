import SqlDialects.Dialect

/-!
# Quotations

A quotation is a text between two quotes, with every quote of the text written twice.  It ends
at the first quote that is not doubled.  So reading a text finds a quotation if and only if
one was written there and no quote follows it (`IsReadAs`), and what was quoted is known from
the quotation.  Names and literals are quotations, and a literal that holds a name is read in
two steps (`Dialect.isReadAs_quotations`).
-/

namespace SqlDialects

namespace Sql

section

variable {α : Type} [DecidableEq α] {quote : α} {text content rest : List α}

/-! ## Writing -/

/-- The text with every quote written twice. -/
def doubled (quote : α) (text : List α) : List α :=
  text.flatMap fun c => if c = quote then [c, c] else [c]

def quotation (quote : α) (text : List α) : List α :=
  quote :: (doubled quote text ++ [quote])

theorem doubled_cons_self (quote : α) (text : List α) :
    doubled quote (quote :: text) = quote :: quote :: doubled quote text := by
  simp [doubled]

theorem doubled_cons {c : α} (hChar : c ≠ quote) (text : List α) :
    doubled quote (c :: text) = c :: doubled quote text := by
  simp [doubled, hChar]

/-! ## Reading -/

/-- The text up to the first quote that is not doubled, where two quotes stand for one, and
what comes after that quote. -/
def closeQuote? (quote : α) : List α → Option (List α × List α)
  | [] => none
  | [c] => if c = quote then some ([], []) else none
  | c :: next :: rest =>
    if c ≠ quote then (closeQuote? quote (next :: rest)).map (Prod.map (c :: ·) id)
    else if next = quote then (closeQuote? quote rest).map (Prod.map (quote :: ·) id)
    else some ([], next :: rest)

/-- The text of the quotation that stands first, and what comes after it. -/
def readQuotation? (quote : α) : List α → Option (List α × List α)
  | [] => none
  | c :: rest => if c = quote then closeQuote? quote rest else none

private theorem closeQuote?_cons {c : α} (hChar : c ≠ quote) (hText : text ≠ []) :
    closeQuote? quote (c :: text) = (closeQuote? quote text).map (Prod.map (c :: ·) id) := by
  cases text with
  | nil => contradiction
  | cons next text => simp [closeQuote?, hChar]

theorem closeQuote?_doubled (content : List α) (hRest : rest.head? ≠ some quote) :
    closeQuote? quote (doubled quote content ++ quote :: rest) = some (content, rest) := by
  induction content with
  | nil =>
      cases rest with
      | nil => simp [doubled, closeQuote?]
      | cons next rest =>
          have hNext : next ≠ quote := by simpa using hRest
          simp [doubled, closeQuote?, hNext]
  | cons c content ih =>
      by_cases hChar : c = quote
      · -- Both quotes of the pair are read at once, so no run of quotes is cut in its middle.
        subst hChar
        simp [doubled_cons_self, closeQuote?, ih]
      · rw [doubled_cons hChar, List.cons_append, closeQuote?_cons hChar (by simp), ih]
        rfl

/-- Only what was written with doubled quotes is read. -/
theorem eq_doubled_of_closeQuote? (hClosed : closeQuote? quote text = some (content, rest)) :
    text = doubled quote content ++ quote :: rest ∧ rest.head? ≠ some quote := by
  fun_induction closeQuote? quote text generalizing content with
  | case1 => cases hClosed
  | case2 =>
      cases hClosed
      simp [doubled]
  | case3 => cases hClosed
  | case4 c next after hChar ih =>
      obtain ⟨⟨content, _⟩, hLater, hEqual⟩ := Option.map_eq_some_iff.1 hClosed
      cases hEqual
      obtain ⟨hText, hRest⟩ := ih hLater
      exact ⟨by rw [hText, doubled_cons hChar, List.cons_append, id_eq], hRest⟩
  | case5 c after hChar ih =>
      obtain ⟨⟨content, _⟩, hLater, hEqual⟩ := Option.map_eq_some_iff.1 hClosed
      cases hEqual
      obtain ⟨hText, hRest⟩ := ih hLater
      have hQuote : c = quote := Decidable.of_not_not hChar
      exact ⟨by rw [hQuote, hText, doubled_cons_self]; rfl, hRest⟩
  | case6 c next after hChar hNext =>
      cases hClosed
      have hQuote : c = quote := Decidable.of_not_not hChar
      exact ⟨by simp [hQuote, doubled], by simpa using hNext⟩

/-- A quotation is read if and only if it was written and no quote follows it. -/
theorem readQuotation?_eq_some_iff :
    readQuotation? quote text = some (content, rest) ↔
      text = quotation quote content ++ rest ∧ rest.head? ≠ some quote := by
  constructor
  · intro hRead
    cases text with
    | nil => cases hRead
    | cons c text =>
        rw [readQuotation?] at hRead
        split at hRead
        · next hChar =>
          obtain ⟨hText, hRest⟩ := eq_doubled_of_closeQuote? hRead
          exact ⟨by simp [quotation, hChar, hText], hRest⟩
        · cases hRead
  · rintro ⟨rfl, hRest⟩
    simp [quotation, readQuotation?, closeQuote?_doubled content hRest]

/-- Of three quotes in a row the last one closes. -/
example : readQuotation? '"' "\"a\"\"\", b".toList = some ("a\"".toList, ", b".toList) := by
  decide

/-- What is written reads as a content: reading a text finds this content with a rest behind it
if and only if the text is what is written with that rest and no quote starts the rest. -/
def IsReadAs (quote : α) (written content : List α) : Prop :=
  ∀ text rest, readQuotation? quote text = some (content, rest) ↔
    text = written ++ rest ∧ rest.head? ≠ some quote

theorem isReadAs_quotation (quote : α) (content : List α) :
    IsReadAs quote (quotation quote content) content :=
  fun _ _ => readQuotation?_eq_some_iff

theorem IsReadAs.read {written : List α} (hReads : IsReadAs quote written content)
    (hRest : rest.head? ≠ some quote) :
    readQuotation? quote (written ++ rest) = some (content, rest) :=
  (hReads _ _).2 ⟨rfl, hRest⟩

theorem IsReadAs.unique {written other : List α} (hReads : IsReadAs quote written content)
    (hOther : IsReadAs quote written other) : content = other := by
  have hFirst : readQuotation? quote (written ++ []) = some (content, []) := hReads.read (by simp)
  have hSecond : readQuotation? quote (written ++ []) = some (other, []) := hOther.read (by simp)
  rw [hFirst] at hSecond
  exact (Prod.mk.inj (Option.some.inj hSecond)).1

end

/-! ## Names and literals -/

open Text (Points CodePoint)

def apostrophe : CodePoint := .char '\''

theorem doubleQuotes_eq_doubled (quote : CodePoint) (text : List CodePoint) :
    doubleQuotes quote text = doubled quote text := by
  induction text with
  | nil => rfl
  | cons point text ih =>
      by_cases hPoint : point = quote
      · subst hPoint
        rw [doubled_cons_self, doubleQuotes, if_pos rfl, ih]
      · rw [doubled_cons hPoint, doubleQuotes, if_neg hPoint, ih]

theorem toList_enclose (quote : Char) (text : Points) :
    (enclose quote text).toList = quotation (.char quote) text.toList := by
  simp [enclose, quotation, doubleQuotes_eq_doubled]

theorem toList_quoteLiteral (text : Points) :
    (quoteLiteral text).toList = quotation apostrophe text.toList :=
  toList_enclose '\'' text

theorem isReadAs_enclose (quote : Char) (text : Points) :
    IsReadAs (.char quote) (enclose quote text).toList text.toList := by
  rw [toList_enclose]
  exact isReadAs_quotation (.char quote) text.toList

theorem isReadAs_quoteLiteral (text : Points) :
    IsReadAs apostrophe (quoteLiteral text).toList text.toList :=
  isReadAs_enclose '\'' text

theorem enclose_injective (quote : Char) : Function.Injective (enclose quote) := by
  intro first second hEqual
  have hFirst := isReadAs_enclose quote first
  rw [hEqual] at hFirst
  exact Points.toList_inj.1 (hFirst.unique (isReadAs_enclose quote second))

theorem readQuotation?_quoteLiteral_iff (dialect : Dialect) (name : Points)
    (text rest : List CodePoint) :
    (∃ inner, readQuotation? apostrophe text = some (inner, rest) ∧
        readQuotation? (.char dialect.quote) inner = some (name.toList, [])) ↔
      text = (quoteLiteral (dialect.quoteIdentifier name)).toList ++ rest ∧
        rest.head? ≠ some apostrophe := by
  have hName := isReadAs_enclose dialect.quote name
  rw [← isReadAs_quoteLiteral (dialect.quoteIdentifier name) text rest]
  constructor
  · rintro ⟨inner, hOuter, hInner⟩
    obtain ⟨rfl, -⟩ := (hName inner []).1 hInner
    rwa [List.append_nil] at hOuter
  · intro hOuter
    exact ⟨_, hOuter, (hName _ _).2 ⟨(List.append_nil _).symm, by simp⟩⟩

end Sql

namespace Dialect

open Sql (IsReadAs readQuotation? apostrophe)

/-- Names and literals are decoded whatever comes after them but another quote, and nothing
else is read as one of them.  So quoting tells texts apart, and a literal that holds a quoted
name shows this name after two steps. -/
theorem isReadAs_quotations (dialect : Dialect) :
    (∀ name, IsReadAs (.char dialect.quote) (dialect.quoteIdentifier name).toList name.toList) ∧
    (∀ text, IsReadAs apostrophe (quoteLiteral text).toList text.toList) ∧
    Function.Injective dialect.quoteIdentifier ∧
    Function.Injective quoteLiteral ∧
    ∀ name text rest,
      (∃ inner, readQuotation? apostrophe text = some (inner, rest) ∧
          readQuotation? (.char dialect.quote) inner = some (name.toList, [])) ↔
        text = (quoteLiteral (dialect.quoteIdentifier name)).toList ++ rest ∧
          rest.head? ≠ some apostrophe :=
  ⟨Sql.isReadAs_enclose dialect.quote, Sql.isReadAs_quoteLiteral,
    Sql.enclose_injective dialect.quote, Sql.enclose_injective '\'',
    Sql.readQuotation?_quoteLiteral_iff dialect⟩

end Dialect

end SqlDialects
