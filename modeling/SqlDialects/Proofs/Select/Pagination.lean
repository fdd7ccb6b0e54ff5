import SqlDialects.Dialect.Vendors
import SqlDialects.Proofs.Sql.Fragment
import SqlDialects.Proofs.Sql.Separation
import SqlDialects.Select

/-!
# Pages of selections

A selection is refused exactly when its dialect cannot express its page.  Otherwise it
becomes a statement, and for a given condition everything else that was asked for follows
from that statement, the page included.
-/

namespace SqlDialects.Dialect

open Sql Number
open Text (Points CodePoint)
open Text.Points (ofString)

/-- A dialect that is there: a built-in one, or one that has but a name and capabilities. -/
def IsOffered (dialect : Dialect) : Prop :=
  dialect ∈ builtin ∨ ∃ name databaseName capabilities schemes,
    dialect = custom name databaseName capabilities schemes

/-- What a dialect writes of its own in a selection. -/
structure HasPages (dialect : Dialect) : Prop where
  quote : IsNameQuote dialect.quote
  keyword : dialect.limitKeyword = "LIMIT" ∨ dialect.limitKeyword = "TOP"

theorem IsOffered.hasPages {dialect : Dialect} (hOffered : dialect.IsOffered) :
    dialect.HasPages := by
  rcases hOffered with hBuiltin | ⟨name, databaseName, capabilities, schemes, rfl⟩
  · simp only [builtin, List.mem_cons, List.not_mem_nil, or_false] at hBuiltin
    rcases hBuiltin with rfl | rfl | rfl | rfl <;> constructor <;> decide
  · exact ⟨Or.inl rfl, Or.inl rfl⟩

/-! ## Refusals -/

/-- A dialect cannot express the page of a selection. -/
def LacksPage (dialect : Dialect) (selection : Selection) : Prop :=
  (selection.limit ≠ none ∧ dialect.capabilities.supportsLimit = false) ∨
    (selection.offset ≠ none ∧ (dialect.capabilities.supportsOffset = false ∨
      (dialect.capabilities.offsetRequiresLimit = true ∧ selection.limit = none)))

theorem missingFeature?_eq_none_iff (dialect : Dialect) (selection : Selection) :
    dialect.missingFeature? selection.limit selection.offset = none ↔
      ¬dialect.LacksPage selection := by
  unfold missingFeature? LacksPage
  cases selection.limit <;> cases selection.offset <;>
    cases dialect.capabilities.supportsLimit <;> cases dialect.capabilities.supportsOffset <;>
      cases dialect.capabilities.offsetRequiresLimit <;> simp

end SqlDialects.Dialect

namespace SqlDialects

/-- The numbers of a selection have few enough digits to be written. -/
structure Selection.IsWritable (selection : Selection) : Prop where
  limit : ∀ number, selection.limit = some number → Number.isWritable number = true
  offset : ∀ number, selection.offset = some number → Number.isWritable number = true

namespace Dialect

open Sql Number
open Text (Points CodePoint)
open Text.Points (ofString)

/-! ## The text of a selection -/

def limitText (dialect : Dialect) (limit : Int) : String :=
  dialect.limitKeyword ++ " " ++ integerText limit ++ " "

/-- The limit in front of the columns, on a dialect that has it there. -/
def frontText (dialect : Dialect) (limit : Option Int) : Points :=
  if dialect.capabilities.limitAfterSelect then ofString ((limit.map dialect.limitText).getD "")
  else ""

/-- The limit at the end, on a dialect that has it there. -/
def backText (dialect : Dialect) (limit : Option Int) : Points :=
  if dialect.capabilities.limitAfterSelect then ""
  else ofString ((limit.map fun limit => " " ++ dialect.limitText limit).getD "")

def skipText (separator : String) (offset : Option Int) : Points :=
  ofString ((offset.map fun offset => separator ++ "OFFSET " ++ integerText offset ++ " ").getD "")

/-- A selection up to its condition. -/
def headText (dialect : Dialect) (selection : Selection) : Points :=
  "SELECT " ++ dialect.frontText selection.limit ++ dialect.columnsText selection.columns
    ++ " FROM " ++ dialect.quoteIdentifier selection.table

/-- A selection after its condition. -/
def tailText (dialect : Dialect) (separator : String) (selection : Selection) : Points :=
  dialect.orderText selection.orderBy ++ dialect.backText selection.limit
    ++ skipText separator selection.offset

theorem limitClause_eq (dialect : Dialect) {limit : Int} (hLimit : isWritable limit = true) :
    dialect.limitClause limit = .ok (dialect.limitText limit) := by
  simp [limitClause, renderInteger, hLimit, limitText, bind, Except.bind, pure, Except.pure]

theorem offsetClause_eq {dialect : Dialect} (hOffsets : dialect.capabilities.supportsOffset = true)
    {offset : Int} (hOffset : isWritable offset = true) :
    dialect.offsetClause offset = .ok ("OFFSET " ++ integerText offset ++ " ") := by
  simp [offsetClause, renderInteger, hOffset, hOffsets, bind, Except.bind, pure, Except.pure]

theorem supportsOffset_of_not_lacksPage {dialect : Dialect} {selection : Selection}
    (hPage : ¬dialect.LacksPage selection) {offset : Int}
    (hOffset : selection.offset = some offset) :
    dialect.capabilities.supportsOffset = true := by
  by_contra hOffsets
  exact hPage (Or.inr ⟨by simp [hOffset], Or.inl (by simpa using hOffsets)⟩)

/-- A selection whose page can be expressed becomes its head, its condition and its tail,
without the blanks at the end. -/
theorem select_eq_ok {dialect : Dialect} {selection : Selection}
    (hPage : ¬dialect.LacksPage selection) (hNumbers : selection.IsWritable) :
    ∃ separator, (separator = "" ∨ separator = " ") ∧
      dialect.select selection = .ok (dialect.headText selection ++
        conditionText selection.condition ++ dialect.tailText separator selection).trimEnd := by
  have hMissing := (dialect.missingFeature?_eq_none_iff selection).2 hPage
  have hLimit : selection.limit.mapM dialect.limitClause =
      .ok (selection.limit.map dialect.limitText) := by
    cases hSome : selection.limit with
    | none => rfl
    | some limit =>
        have hClause := dialect.limitClause_eq (hNumbers.limit limit hSome)
        rw [Option.mapM_some, hClause]
        rfl
  rw [select, hMissing]
  simp only [hLimit]
  cases hOffset : selection.offset with
  | none =>
      refine ⟨"", Or.inl rfl, ?_⟩
      by_cases hFront : dialect.capabilities.limitAfterSelect = true <;>
        simp [hFront, hOffset, headText, tailText, frontText, backText, skipText,
          Function.comp_def, bind, Except.bind, pure, Except.pure, Points.append_assoc]
  | some offset =>
      have hClause := offsetClause_eq (supportsOffset_of_not_lacksPage hPage hOffset)
        (hNumbers.offset offset hOffset)
      let body := dialect.headText selection ++ conditionText selection.condition ++
        dialect.orderText selection.orderBy ++ dialect.backText selection.limit
      refine ⟨if body.toList.getLast? = some (.char ' ') then "" else " ", by split <;> simp, ?_⟩
      by_cases hFront : dialect.capabilities.limitAfterSelect = true <;>
        simp [-Points.toList_append, hFront, hOffset, hClause, body, headText, tailText, frontText,
          backText, skipText, Function.comp_def, bind, Except.bind, pure, Except.pure,
          Points.append_assoc, Points.ofString_append]

theorem select_eq_unsupported {dialect : Dialect} {selection : Selection}
    (hLacks : dialect.LacksPage selection) :
    ∃ feature, dialect.select selection = .error (.unsupported dialect.name feature) := by
  cases hMissing : dialect.missingFeature? selection.limit selection.offset with
  | none => exact absurd hLacks ((dialect.missingFeature?_eq_none_iff selection).1 hMissing)
  | some feature => exact ⟨feature, by rw [select, hMissing]⟩

theorem isWritable_of_select {dialect : Dialect} {selection : Selection} {text : Points}
    (hText : dialect.select selection = .ok text) : selection.IsWritable := by
  unfold select at hText
  split at hText
  · cases hText
  · constructor
    · intro limit hLimit
      by_contra hWritable
      simp [hLimit, limitClause, renderInteger, hWritable, bind, Except.bind] at hText
    · intro offset hOffset
      by_contra hWritable
      cases hLimit : selection.limit.mapM dialect.limitClause with
      | error error => simp [hLimit, bind, Except.bind] at hText
      | ok limit =>
          by_cases hOffsets : dialect.capabilities.supportsOffset = true <;>
            simp [hLimit, hOffset, offsetClause, renderInteger, hWritable, hOffsets, bind,
              Except.bind] at hText

/-- A statement is what is left of a head, a condition and a tail without blanks at the end. -/
theorem exists_separator_of_select {dialect : Dialect} {selection : Selection} {text : Points}
    (hText : dialect.select selection = .ok text) :
    ∃ separator, (separator = "" ∨ separator = " ") ∧
      text.toList = Text.trimEndBy CodePoint.isBlank ((dialect.headText selection).toList ++
        ((conditionText selection.condition).toList ++
          (dialect.tailText separator selection).toList)) := by
  have hPage : ¬dialect.LacksPage selection := by
    intro hLacks
    obtain ⟨feature, hRefused⟩ := select_eq_unsupported hLacks
    rw [hText] at hRefused
    cases hRefused
  obtain ⟨separator, hSeparator, hSelected⟩ := select_eq_ok hPage (isWritable_of_select hText)
  rw [hText] at hSelected
  injection hSelected with hEqual
  exact ⟨separator, hSeparator, by simp [hEqual, Points.trimEnd]⟩

/-! ## Blanks at the end -/

theorem trimEndBy_append_of_last {α : Type} {isTrimmed : α → Bool} (before : List α) {last : α}
    (hLast : isTrimmed last = false) (rest : List α) :
    Text.trimEndBy isTrimmed (before ++ last :: rest) =
      before ++ last :: Text.trimEndBy isTrimmed rest := by
  simp only [Text.trimEndBy, List.reverse_append, List.reverse_cons, List.append_assoc,
    List.dropWhile_append]
  split
  · next hEmpty =>
    have hNothing : rest.reverse.dropWhile isTrimmed = [] := List.isEmpty_iff.1 hEmpty
    simp [hNothing, hLast]
  · simp

theorem isPrefix_trimEndBy {α : Type} (isTrimmed : α → Bool) (text : List α) :
    Text.trimEndBy isTrimmed text <+: text := by
  rw [Text.trimEndBy, ← List.reverse_suffix, List.reverse_reverse]
  exact List.dropWhile_suffix _

theorem head?_trimEndBy {α : Type} {isTrimmed : α → Bool} {text : List α} {first : α}
    (hHead : text.head? ≠ some first) : (Text.trimEndBy isTrimmed text).head? ≠ some first := by
  intro hFirst
  obtain ⟨rest, hRest⟩ := isPrefix_trimEndBy isTrimmed text
  apply hHead
  rw [← hRest, List.head?_append, hFirst]
  rfl

/-- A text that ends like a sort key, or like a number with a space after it. -/
def EndsInWord (text : List CodePoint) : Prop :=
  ∃ before, ∃ c : Char, (c = 'C' ∧ text = before ++ [.char c]) ∨
    (c.isDigit = true ∧ text = before ++ [.char c, .char ' '])

theorem EndsInWord.append {text : List CodePoint} (hText : EndsInWord text)
    (before : List CodePoint) : EndsInWord (before ++ text) := by
  obtain ⟨inside, c, ⟨hChar, rfl⟩ | ⟨hDigit, rfl⟩⟩ := hText
  · exact ⟨before ++ inside, c, Or.inl ⟨hChar, by simp⟩⟩
  · exact ⟨before ++ inside, c, Or.inr ⟨hDigit, by simp⟩⟩

/-- Trimming such a text takes a space at most, and what is left shows whether it did. -/
theorem EndsInWord.trimEnd_cases {text : List CodePoint} (hText : EndsInWord text) :
    ∃ before, ∃ c : Char, Text.trimEndBy CodePoint.isBlank text = before ++ [.char c] ∧
      ((c = 'C' ∧ text = before ++ [.char c]) ∨
        (c.isDigit = true ∧ text = before ++ [.char c, .char ' '])) := by
  obtain ⟨before, c, hShape⟩ := hText
  refine ⟨before, c, ?_, hShape⟩
  rcases hShape with ⟨rfl, rfl⟩ | ⟨hDigit, rfl⟩
  · exact trimEndBy_append_of_last before (by decide) []
  · exact trimEndBy_append_of_last before (Text.isBlank_of_isDigit hDigit) [.char ' ']

theorem EndsInWord.eq_of_trimEnd {first second : List CodePoint} (hFirst : EndsInWord first)
    (hSecond : EndsInWord second)
    (hEqual : Text.trimEndBy CodePoint.isBlank first = Text.trimEndBy CodePoint.isBlank second) :
    first = second := by
  obtain ⟨before, c, hTrimmed, hShape⟩ := hFirst.trimEnd_cases
  obtain ⟨other, d, hOtherTrimmed, hOtherShape⟩ := hSecond.trimEnd_cases
  rw [hTrimmed, hOtherTrimmed] at hEqual
  obtain ⟨rfl, hLast⟩ := List.append_inj' hEqual rfl
  obtain rfl : c = d := by simpa using hLast
  rcases hShape with ⟨rfl, rfl⟩ | ⟨hDigit, rfl⟩ <;>
    rcases hOtherShape with ⟨hOther, rfl⟩ | ⟨hOther, rfl⟩
  · rfl
  · contradiction
  · subst hOther
    contradiction
  · rfl

/-- A condition that nothing follows is never the same as one that something follows. -/
theorem EndsInWord.trimEnd_ne {tail : List CodePoint} (hTail : EndsInWord tail)
    (before : List CodePoint) : Text.trimEndBy CodePoint.isBlank (before ++ tail) ≠
      Text.trimEndBy CodePoint.isBlank before := by
  intro hEqual
  obtain ⟨inside, c, hShape⟩ := hTail
  have hTrimmed : Text.trimEndBy CodePoint.isBlank (before ++ tail) =
      before ++ inside ++ [.char c] := by
    rcases hShape with ⟨rfl, rfl⟩ | ⟨hDigit, rfl⟩
    · rw [← List.append_assoc]
      exact trimEndBy_append_of_last (before ++ inside) (by decide) []
    · rw [← List.append_assoc]
      exact trimEndBy_append_of_last (before ++ inside) (Text.isBlank_of_isDigit hDigit) [.char ' ']
  have hLength := (isPrefix_trimEndBy CodePoint.isBlank before).length_le
  rw [← hEqual, hTrimmed] at hLength
  simp only [List.length_append, List.length_singleton] at hLength
  omega

/-! ## The parts of a selection -/

section

variable {dialect : Dialect}

theorem separates_limitText (dialect : Dialect) :
    Separates (fun limit => (ofString (dialect.limitText limit)).toList) fun _ => True := by
  have hNumber : Separates
      (fun limit => (ofString (integerText limit)).toList ++ [.char ' ']) fun _ => True :=
    separates_integerText.append_text fun rest point hHead => by
      obtain rfl : .char ' ' = point := by simpa using hHead
      decide
  intro first second rest other hRest hOther hEqual
  refine hNumber first second rest other hRest hOther ?_
  simpa [limitText] using hEqual

theorem HasPages.head?_limitText (hPages : dialect.HasPages) (limit : Int) (rest : List CodePoint) :
    ((ofString (dialect.limitText limit)).toList ++ rest).head? = some (.char 'L') ∨
      ((ofString (dialect.limitText limit)).toList ++ rest).head? = some (.char 'T') := by
  rcases hPages.keyword with hKeyword | hKeyword <;> simp [limitText, hKeyword]

/-- What starts the columns of a selection. -/
def StartsColumns (dialect : Dialect) (text : List CodePoint) : Prop :=
  text.head? = some (.char '*') ∨ text.head? = some (.char dialect.quote)

theorem HasPages.not_startsColumns (hPages : dialect.HasPages) (limit : Int)
    (rest : List CodePoint) :
    ¬dialect.StartsColumns ((ofString (dialect.limitText limit)).toList ++ rest) := by
  have hHead := hPages.head?_limitText limit rest
  rintro (hStar | hQuote)
  · rw [hStar] at hHead
    simp at hHead
  · rw [hQuote] at hHead
    rcases hPages.quote with hMark | hMark <;> simp [hMark] at hHead

theorem separates_frontText (hPages : dialect.HasPages)
    (hFront : dialect.capabilities.limitAfterSelect = true) :
    Separates (fun limit => (dialect.frontText limit).toList) dialect.StartsColumns := by
  intro first second rest other hRest hOther hEqual
  simp only [frontText, hFront, if_true] at hEqual
  cases first with
  | none =>
      cases second with
      | none => simpa using hEqual
      | some limit =>
          have hRestText : rest = (ofString (dialect.limitText limit)).toList ++ other := by
            simpa using hEqual
          exact absurd (hRestText ▸ hRest) (hPages.not_startsColumns limit other)
  | some limit =>
      cases second with
      | none =>
          have hOtherText : (ofString (dialect.limitText limit)).toList ++ rest = other := by
            simpa using hEqual
          exact absurd (hOtherText ▸ hOther) (hPages.not_startsColumns limit rest)
      | some otherLimit =>
          obtain ⟨rfl, hAfter⟩ := separates_limitText dialect limit otherLimit rest other trivial
            trivial (by simpa using hEqual)
          exact ⟨rfl, hAfter⟩

theorem head?_columnsText (columns : List Points) (rest : List CodePoint) :
    ((dialect.columnsText columns).toList ++ rest).head? =
      some (.char (if columns = [] then '*' else dialect.quote)) := by
  cases columns with
  | nil => simp [columnsText]
  | cons column columns =>
      cases columns with
      | nil => simp [columnsText, quoteIdentifier, enclose]
      | cons next columns =>
          simp [columnsText, quoteIdentifier, enclose]

theorem HasPages.startsColumns_columnsText (columns : List Points) (rest : List CodePoint) :
    dialect.StartsColumns ((dialect.columnsText columns).toList ++ rest) := by
  rw [StartsColumns, head?_columnsText]
  split
  · exact Or.inl rfl
  · exact Or.inr rfl

theorem toList_columnsText {columns : List Points} (hColumns : columns ≠ []) :
    (dialect.columnsText columns).toList = (ofString ", ").toList.intercalate
      (columns.map fun column => (enclose dialect.quote column).toList) := by
  have hNotEmpty : columns.isEmpty = false := by simpa using hColumns
  simp [columnsText, hNotEmpty, Function.comp_def, quoteIdentifier]

theorem separates_columnsText (hPages : dialect.HasPages) :
    Separates (fun columns => (dialect.columnsText columns).toList)
      fun rest => rest.head? = some (.char ' ') := by
  intro first second rest other hRest hOther hEqual
  have hHeads := congrArg List.head? hEqual
  rw [head?_columnsText, head?_columnsText] at hHeads
  have hStar : '*' ≠ dialect.quote := by
    rcases hPages.quote with hQuote | hQuote <;> rw [hQuote] <;> decide
  by_cases hFirst : first = [] <;> by_cases hSecond : second = []
  · subst hFirst hSecond
    exact ⟨rfl, List.append_cancel_left hEqual⟩
  · simp [hFirst, hSecond, hStar] at hHeads
  · simp [hFirst, hSecond, hStar.symm] at hHeads
  · have hSpace : ' ' ≠ dialect.quote := by
      rcases hPages.quote with hQuote | hQuote <;> rw [hQuote] <;> decide
    have hComma : ',' ≠ dialect.quote := by
      rcases hPages.quote with hQuote | hQuote <;> rw [hQuote] <;> decide
    have hNoComma {text : List CodePoint} (hText : text.head? = some (.char ' ')) :
        ¬(ofString ", ").toList <+: text := by
      rintro ⟨after, rfl⟩
      simp at hText
    simp only [toList_columnsText hFirst, toList_columnsText hSecond] at hEqual
    exact (separates_enclose dialect.quote).intercalate (by simpa using hComma) hFirst hSecond
      (by simpa [hRest] using hSpace) (by simpa [hOther] using hSpace) (hNoComma hRest)
      (hNoComma hOther) hEqual

theorem headText_separates (hPages : dialect.HasPages) {first second : Selection}
    {rest other : List CodePoint} (hRest : rest.head? ≠ some (.char dialect.quote))
    (hOther : other.head? ≠ some (.char dialect.quote))
    (hEqual : (dialect.headText first).toList ++ rest = (dialect.headText second).toList ++ other) :
    first.table = second.table ∧ first.columns = second.columns ∧
      (dialect.capabilities.limitAfterSelect = true → first.limit = second.limit) ∧
      rest = other := by
  have hFronts : (dialect.frontText first.limit).toList
        ++ ((dialect.columnsText first.columns).toList
        ++ ((ofString " FROM ").toList ++ ((enclose dialect.quote first.table).toList ++ rest))) =
      (dialect.frontText second.limit).toList ++ ((dialect.columnsText second.columns).toList
        ++ ((ofString " FROM ").toList
          ++ ((enclose dialect.quote second.table).toList ++ other))) := by
    simpa [headText, quoteIdentifier] using hEqual
  obtain ⟨hLimit, hColumns⟩ :
      (dialect.capabilities.limitAfterSelect = true → first.limit = second.limit) ∧
        (dialect.columnsText first.columns).toList
          ++ ((ofString " FROM ").toList ++ ((enclose dialect.quote first.table).toList ++ rest)) =
        (dialect.columnsText second.columns).toList
          ++ ((ofString " FROM ").toList
            ++ ((enclose dialect.quote second.table).toList ++ other)) := by
    by_cases hFront : dialect.capabilities.limitAfterSelect = true
    · obtain ⟨hLimit, hColumns⟩ := separates_frontText hPages hFront _ _ _ _
        (HasPages.startsColumns_columnsText _ _) (HasPages.startsColumns_columnsText _ _) hFronts
      exact ⟨fun _ => hLimit, hColumns⟩
    · exact ⟨fun hTrue => absurd hTrue hFront, by simpa [frontText, hFront] using hFronts⟩
  obtain ⟨hNames, hTables⟩ := separates_columnsText hPages _ _ _ _ (by simp) (by simp) hColumns
  obtain ⟨hTable, hAfter⟩ := separates_enclose dialect.quote _ _ _ _ hRest hOther
    (List.append_cancel_left hTables)
  exact ⟨hTable, hNames, hLimit, hAfter⟩

theorem separates_sortText (dialect : Dialect) (hPages : dialect.HasPages) :
    Separates (fun key => (dialect.sortText key).toList) fun _ => True := by
  intro first second rest other _ _ hEqual
  have hSpace : ' ' ≠ dialect.quote := by
    rcases hPages.quote with hQuote | hQuote <;> rw [hQuote] <;> decide
  obtain ⟨firstColumn, firstDescending⟩ := first
  obtain ⟨secondColumn, secondDescending⟩ := second
  have hNames : (enclose dialect.quote firstColumn).toList ++
        ((ofString (if firstDescending then " DESC" else " ASC")).toList ++ rest) =
      (enclose dialect.quote secondColumn).toList ++
        ((ofString (if secondDescending then " DESC" else " ASC")).toList ++ other) := by
    simpa [sortText, quoteIdentifier] using hEqual
  have hStart (descending : Bool) (after : List CodePoint) :
      ((ofString (if descending then " DESC" else " ASC")).toList ++ after).head? ≠
        some (.char dialect.quote) := by
    cases descending <;> simpa using hSpace
  obtain ⟨rfl, hDirections⟩ :=
    separates_enclose dialect.quote _ _ _ _ (hStart _ _) (hStart _ _) hNames
  cases firstDescending <;> cases secondDescending <;> simp at hDirections <;> simp [hDirections]

theorem separates_orderText (hPages : dialect.HasPages) :
    Separates (fun orderBy => (dialect.orderText orderBy).toList)
      fun rest => ¬(ofString " OR").toList <+: rest ∧ ¬(ofString ", ").toList <+: rest := by
  intro first second rest other hRest hOther hEqual
  have hKeys {keys : List SortKey} (hSome : keys ≠ []) : (dialect.orderText keys).toList =
      (ofString " OR").toList ++ ((ofString "DER BY ").toList ++ (ofString ", ").toList.intercalate
        (keys.map fun key => (dialect.sortText key).toList)) := by
    have hNotEmpty : keys.isEmpty = false := by simpa using hSome
    simp [orderText, hNotEmpty, Function.comp_def]
  have hNone : (dialect.orderText []).toList = [] := rfl
  by_cases hFirst : first = [] <;> by_cases hSecond : second = []
  · subst hFirst hSecond
    exact ⟨rfl, List.append_cancel_left hEqual⟩
  · subst hFirst
    simp only [hKeys hSecond, hNone, List.nil_append, List.append_assoc] at hEqual
    exact absurd ⟨_, hEqual.symm⟩ hRest.1
  · subst hSecond
    simp only [hKeys hFirst, hNone, List.nil_append, List.append_assoc] at hEqual
    exact absurd ⟨_, hEqual⟩ hOther.1
  · simp only [hKeys hFirst, hKeys hSecond, List.append_assoc, List.append_cancel_left_eq] at hEqual
    exact (separates_sortText dialect hPages).intercalate (fun _ => trivial) hFirst hSecond trivial
      trivial hRest.2 hOther.2 hEqual

theorem skipText_injective {separator otherSeparator : String}
    (hSeparator : separator = "" ∨ separator = " ")
    (hOther : otherSeparator = "" ∨ otherSeparator = " ") {first second : Option Int}
    (hEqual : (skipText separator first).toList = (skipText otherSeparator second).toList) :
    first = second := by
  have hNumber {number other : Int}
      (hNumbers : (ofString (integerText number)).toList = (ofString (integerText other)).toList) :
      number = other :=
    (separates_integerText _ _ [] [] (by simp [StartsWithoutDigit]) (by simp [StartsWithoutDigit])
      (by simpa using hNumbers)).1
  cases first with
  | none =>
      cases second with
      | none => rfl
      | some offset => simp [skipText] at hEqual
  | some offset =>
      cases second with
      | none => simp [skipText] at hEqual
      | some other =>
          rcases hSeparator with rfl | rfl <;> rcases hOther with rfl | rfl <;>
            simp [skipText] at hEqual
          · rw [hNumber hEqual]
          · rw [hNumber hEqual]

theorem HasPages.not_limitText_skipText (hPages : dialect.HasPages) (limit : Int)
    (rest : List CodePoint) {separator : String} (hSeparator : separator = "" ∨ separator = " ")
    (offset : Option Int) :
    .char ' ' :: ((ofString (dialect.limitText limit)).toList ++ rest) ≠
      (skipText separator offset).toList := by
  cases offset with
  | none => simp [skipText]
  | some offset =>
      rcases hPages.keyword with hKeyword | hKeyword <;> rcases hSeparator with rfl | rfl <;>
        simp [skipText, limitText, hKeyword]

theorem separates_backText (hPages : dialect.HasPages)
    (hFront : ¬dialect.capabilities.limitAfterSelect = true) :
    Separates (fun limit => (dialect.backText limit).toList) fun rest =>
      ∃ separator offset, (separator = "" ∨ separator = " ") ∧
        rest = (skipText separator offset).toList := by
  rintro first second rest other ⟨separator, offset, hSeparator, rfl⟩
    ⟨otherSeparator, otherOffset, hOtherSeparator, rfl⟩ hEqual
  cases first with
  | none =>
      cases second with
      | none => exact ⟨rfl, by simpa [backText, hFront] using hEqual⟩
      | some limit =>
          refine absurd ?_ (hPages.not_limitText_skipText limit
            (skipText otherSeparator otherOffset).toList hSeparator offset)
          simpa [backText, hFront] using hEqual.symm
  | some limit =>
      cases second with
      | none =>
          refine absurd ?_ (hPages.not_limitText_skipText limit
            (skipText separator offset).toList hOtherSeparator otherOffset)
          simpa [backText, hFront] using hEqual
      | some otherLimit =>
          obtain ⟨rfl, hAfter⟩ := separates_limitText dialect limit otherLimit _ _ trivial trivial
            (by simpa [backText, hFront] using hEqual)
          exact ⟨rfl, hAfter⟩

theorem HasPages.not_prefix_backText (hPages : dialect.HasPages) (limit offset : Option Int)
    {separator : String} (hSeparator : separator = "" ∨ separator = " ") :
    ¬(ofString " OR").toList <+:
        (dialect.backText limit).toList ++ (skipText separator offset).toList ∧
      ¬(ofString ", ").toList <+:
        (dialect.backText limit).toList ++ (skipText separator offset).toList := by
  have hSkip : ¬(ofString " OR").toList <+: (skipText separator offset).toList ∧
      ¬(ofString ", ").toList <+: (skipText separator offset).toList := by
    cases offset with
    | none => simp [skipText]
    | some offset => rcases hSeparator with rfl | rfl <;> simp [skipText]
  by_cases hFront : dialect.capabilities.limitAfterSelect = true
  · simpa [backText, hFront] using hSkip
  · cases limit with
    | none => simpa [backText, hFront] using hSkip
    | some limit =>
        rcases hPages.keyword with hKeyword | hKeyword <;>
          simp [backText, hFront, limitText, hKeyword]

theorem tailText_injective (hPages : dialect.HasPages) {first second : Selection}
    {separator otherSeparator : String} (hSeparator : separator = "" ∨ separator = " ")
    (hOther : otherSeparator = "" ∨ otherSeparator = " ")
    (hEqual : (dialect.tailText separator first).toList =
      (dialect.tailText otherSeparator second).toList) :
    first.orderBy = second.orderBy ∧
      (¬dialect.capabilities.limitAfterSelect = true → first.limit = second.limit) ∧
      first.offset = second.offset := by
  have hOrders : (dialect.orderText first.orderBy).toList ++ ((dialect.backText first.limit).toList
        ++ (skipText separator first.offset).toList) =
      (dialect.orderText second.orderBy).toList ++ ((dialect.backText second.limit).toList
        ++ (skipText otherSeparator second.offset).toList) := by
    simpa [tailText] using hEqual
  obtain ⟨hOrder, hPagesEqual⟩ := separates_orderText hPages _ _ _ _
    (hPages.not_prefix_backText _ _ hSeparator) (hPages.not_prefix_backText _ _ hOther) hOrders
  by_cases hFront : dialect.capabilities.limitAfterSelect = true
  · have hSkips : (skipText separator first.offset).toList =
        (skipText otherSeparator second.offset).toList := by
      simpa [backText, hFront] using hPagesEqual
    exact ⟨hOrder, fun hNot => absurd hFront hNot, skipText_injective hSeparator hOther hSkips⟩
  · obtain ⟨hLimit, hSkips⟩ := separates_backText hPages hFront _ _ _ _
      ⟨separator, _, hSeparator, rfl⟩ ⟨otherSeparator, _, hOther, rfl⟩ hPagesEqual
    exact ⟨hOrder, fun _ => hLimit, skipText_injective hSeparator hOther hSkips⟩

/-! ## The ends of the parts -/

theorem endsInWord_integerText (number : Int) :
    EndsInWord ((ofString (integerText number)).toList ++ [.char ' ']) := by
  have hNatural (size : Nat) : EndsInWord ((ofString (natText size)).toList ++ [.char ' ']) := by
    have hDigits : Nat.toDigits 10 size ≠ [] := Nat.toDigits_ne_nil
    refine ⟨(Nat.toDigits 10 size).dropLast.map .char, (Nat.toDigits 10 size).getLast hDigits,
      Or.inr ⟨Nat.isDigit_of_mem_toDigits (by decide) (by decide) (List.getLast_mem hDigits), ?_⟩⟩
    rw [natText, Points.toList_ofString, String.toList_ofList]
    conv_lhs => rw [← List.dropLast_append_getLast hDigits]
    simp
  unfold integerText
  split
  · simpa using (hNatural number.natAbs).append [.char '-']
  · exact hNatural number.natAbs

theorem endsInWord_skipText (separator : String) (offset : Int) :
    EndsInWord (skipText separator (some offset)).toList := by
  simpa [skipText] using
    (endsInWord_integerText offset).append (ofString (separator ++ "OFFSET ")).toList

theorem endsInWord_backText (hFront : ¬dialect.capabilities.limitAfterSelect = true) (limit : Int) :
    EndsInWord (dialect.backText (some limit)).toList := by
  simpa [backText, hFront, limitText] using
    (endsInWord_integerText limit).append (ofString (" " ++ dialect.limitKeyword ++ " ")).toList

theorem endsInWord_sortText (key : SortKey) : EndsInWord (dialect.sortText key).toList := by
  have hDirection : EndsInWord (ofString (if key.descending then " DESC" else " ASC")).toList := by
    cases key.descending
    · exact ⟨(ofString " AS").toList, 'C', Or.inl ⟨rfl, rfl⟩⟩
    · exact ⟨(ofString " DES").toList, 'C', Or.inl ⟨rfl, rfl⟩⟩
  simpa [sortText] using hDirection.append (dialect.quoteIdentifier key.column).toList

theorem endsInWord_intercalate {separator : List CodePoint} {texts : List (List CodePoint)}
    (hTexts : texts ≠ []) (hEnds : ∀ text ∈ texts, EndsInWord text) :
    EndsInWord (separator.intercalate texts) := by
  induction texts with
  | nil => contradiction
  | cons text texts ih =>
      cases texts with
      | nil => simpa using hEnds text (by simp)
      | cons next texts =>
          rw [List.intercalate_cons_cons]
          exact (ih (by simp) fun other hOther => hEnds other (by simp [hOther])).append _

theorem endsInWord_orderText {orderBy : List SortKey} (hOrder : orderBy ≠ []) :
    EndsInWord (dialect.orderText orderBy).toList := by
  have hNotEmpty : orderBy.isEmpty = false := by simpa using hOrder
  have hKeys : EndsInWord ((ofString ", ").toList.intercalate
      (orderBy.map fun key => (dialect.sortText key).toList)) := by
    apply endsInWord_intercalate (by simpa using hOrder)
    intro text hText
    obtain ⟨key, -, rfl⟩ := List.mem_map.1 hText
    exact endsInWord_sortText key
  simpa [orderText, hNotEmpty, Function.comp_def] using
    hKeys.append (ofString " ORDER BY ").toList

theorem tailText_cases (separator : String) (selection : Selection) :
    (dialect.tailText separator selection).toList = [] ∨
      EndsInWord (dialect.tailText separator selection).toList := by
  cases hOffset : selection.offset with
  | some offset =>
      right
      simpa [tailText, hOffset] using (endsInWord_skipText separator offset).append
        ((dialect.orderText selection.orderBy).toList ++ (dialect.backText selection.limit).toList)
  | none =>
      have hTail : (dialect.tailText separator selection).toList =
          (dialect.orderText selection.orderBy).toList ++
            (dialect.backText selection.limit).toList := by
        simp [tailText, hOffset, skipText]
      rw [hTail]
      by_cases hBack : (dialect.backText selection.limit).toList = []
      · rw [hBack, List.append_nil]
        by_cases hOrder : selection.orderBy = []
        · left
          simp [hOrder, orderText]
        · exact Or.inr (endsInWord_orderText hOrder)
      · right
        cases hLimit : selection.limit with
        | none =>
            rw [hLimit] at hBack
            simp [backText] at hBack
        | some limit =>
            have hFront : ¬dialect.capabilities.limitAfterSelect = true := by
              intro hFront
              simp [backText, hFront] at hBack
            exact (endsInWord_backText hFront limit).append _

/-- A text that is empty or starts with a space or with the word of an offset. -/
def StartsPart (text : List CodePoint) : Prop :=
  ∀ point, text.head? = some point → point = .char ' ' ∨ point = .char 'O'

theorem StartsPart.append {first second : List CodePoint} (hFirst : StartsPart first)
    (hSecond : StartsPart second) : StartsPart (first ++ second) := by
  intro c hHead
  cases first with
  | nil => exact hSecond c hHead
  | cons start first => exact hFirst c hHead

theorem startsPart_conditionText (condition : Option Points) :
    StartsPart (conditionText condition).toList := by
  intro c hHead
  unfold conditionText at hHead
  split at hHead
  · split at hHead
    · simp at hHead
    · exact Or.inl (by simpa using hHead.symm)
  · simp at hHead

theorem startsPart_tailText {separator : String} (hSeparator : separator = "" ∨ separator = " ")
    (selection : Selection) : StartsPart (dialect.tailText separator selection).toList := by
  have hOrder : StartsPart (dialect.orderText selection.orderBy).toList := by
    intro c hHead
    unfold orderText at hHead
    split at hHead
    · simp at hHead
    · exact Or.inl (by simpa using hHead.symm)
  have hBack : StartsPart (dialect.backText selection.limit).toList := by
    intro c hHead
    unfold backText at hHead
    split at hHead
    · simp at hHead
    · cases hLimit : selection.limit with
      | none => simp [hLimit] at hHead
      | some limit => exact Or.inl (by simpa [hLimit] using hHead.symm)
  have hSkip : StartsPart (skipText separator selection.offset).toList := by
    intro c hHead
    cases hOffset : selection.offset with
    | none => simp [hOffset, skipText] at hHead
    | some offset =>
        rcases hSeparator with rfl | rfl
        · exact Or.inr (by simpa [hOffset, skipText] using hHead.symm)
        · exact Or.inl (by simpa [hOffset, skipText] using hHead.symm)
  simpa [tailText] using hOrder.append (hBack.append hSkip)

theorem StartsPart.head?_ne (hPages : dialect.HasPages) {text : List CodePoint}
    (hText : StartsPart text) : text.head? ≠ some (.char dialect.quote) := by
  intro hHead
  rcases hText _ hHead with hChar | hChar <;> rcases hPages.quote with hQuote | hQuote <;>
    simp [hQuote] at hChar

theorem HasPages.head?_afterHead (hPages : dialect.HasPages) {separator : String}
    (hSeparator : separator = "" ∨ separator = " ") (selection : Selection) :
    (Text.trimEndBy CodePoint.isBlank ((conditionText selection.condition).toList ++
      (dialect.tailText separator selection).toList)).head? ≠ some (.char dialect.quote) := by
  apply head?_trimEndBy
  apply StartsPart.head?_ne hPages
  exact (startsPart_conditionText selection.condition).append
    (startsPart_tailText hSeparator selection)

theorem trimEndBy_headText (hPages : dialect.HasPages) (selection : Selection)
    (rest : List CodePoint) :
    Text.trimEndBy CodePoint.isBlank ((dialect.headText selection).toList ++ rest) =
      (dialect.headText selection).toList ++ Text.trimEndBy CodePoint.isBlank rest := by
  have hQuote : CodePoint.isBlank dialect.quote = false := by
    rcases hPages.quote with hQuote | hQuote <;> rw [hQuote] <;> decide
  obtain ⟨before, hHead⟩ : ∃ before,
      (dialect.headText selection).toList = before ++ [.char dialect.quote] := by
    simp only [headText, quoteIdentifier, enclose, Points.toList_append]
    exact ⟨_, by rw [← List.append_assoc]⟩
  rw [hHead, List.append_assoc, List.append_assoc]
  exact trimEndBy_append_of_last before hQuote rest

/-! ## The theorem -/

/-- For a given condition, a statement shows everything else that was asked for. -/
theorem select_injective (hPages : dialect.HasPages) {first second : Selection} {text : Points}
    (hCondition : first.condition = second.condition) (hFirst : dialect.select first = .ok text)
    (hSecond : dialect.select second = .ok text) : first = second := by
  obtain ⟨separator, hSeparator, hText⟩ := exists_separator_of_select hFirst
  obtain ⟨otherSeparator, hOther, hOtherText⟩ := exists_separator_of_select hSecond
  rw [trimEndBy_headText hPages] at hText hOtherText
  obtain ⟨hTable, hColumns, hFrontLimit, hRest⟩ := headText_separates hPages
    (hPages.head?_afterHead hSeparator first) (hPages.head?_afterHead hOther second)
    (hText.symm.trans hOtherText)
  rw [← hCondition] at hRest
  have hTails : (dialect.tailText separator first).toList =
      (dialect.tailText otherSeparator second).toList := by
    generalize (conditionText first.condition).toList = condition at hRest
    rcases dialect.tailText_cases separator first with hEmpty | hEnds <;>
      rcases dialect.tailText_cases otherSeparator second with hOtherEmpty | hOtherEnds
    · rw [hEmpty, hOtherEmpty]
    · rw [hEmpty, List.append_nil] at hRest
      exact absurd hRest.symm (hOtherEnds.trimEnd_ne condition)
    · rw [hOtherEmpty, List.append_nil] at hRest
      exact absurd hRest (hEnds.trimEnd_ne condition)
    · exact List.append_cancel_left
        ((hEnds.append condition).eq_of_trimEnd (hOtherEnds.append condition) hRest)
  obtain ⟨hOrder, hBackLimit, hOffset⟩ := tailText_injective hPages hSeparator hOther hTails
  have hLimit : first.limit = second.limit := by
    by_cases hFront : dialect.capabilities.limitAfterSelect = true
    · exact hFrontLimit hFront
    · exact hBackLimit hFront
  cases first
  cases second
  simp only [Selection.mk.injEq]
  exact ⟨hTable, hColumns, hCondition, hOrder, hLimit, hOffset⟩

/-- A selection is refused exactly when its page cannot be expressed, and else its statement
shows, for a given condition, all that was asked for.  So no part of a page is dropped. -/
theorem select_pages (hOffered : dialect.IsOffered) :
    (∀ selection : Selection, selection.IsWritable →
      ((∃ feature, dialect.select selection = .error (.unsupported dialect.name feature)) ↔
        dialect.LacksPage selection) ∧
      (¬dialect.LacksPage selection → ∃ text, dialect.select selection = .ok text)) ∧
    ∀ (first second : Selection) (text : Points), first.condition = second.condition →
      dialect.select first = .ok text → dialect.select second = .ok text → first = second := by
  constructor
  · intro selection hNumbers
    have hAnswer (hPage : ¬dialect.LacksPage selection) :
        ∃ text, dialect.select selection = .ok text := by
      obtain ⟨separator, -, hText⟩ := select_eq_ok hPage hNumbers
      exact ⟨_, hText⟩
    refine ⟨⟨?_, select_eq_unsupported⟩, hAnswer⟩
    rintro ⟨feature, hRefused⟩
    by_contra hPage
    obtain ⟨text, hText⟩ := hAnswer hPage
    rw [hText] at hRefused
    cases hRefused
  · intro first second text hCondition hFirst hSecond
    exact select_injective hOffered.hasPages hCondition hFirst hSecond

end

/-- The second page of a table whose name holds the quotes of both kinds. -/
def secondPage : Selection where
  table := "t`\""
  columns := ["a, b", "c"]
  condition := some "x > 0 "
  orderBy := [⟨"c", true⟩]
  limit := some 10
  offset := some 10

theorem select_pages_secondPage :
    (∃ text, mysql.select secondPage = .ok text) ∧
      (∃ feature, mysql.select { secondPage with limit := none } =
        .error (.unsupported mysql.name feature)) ∧
      ∀ (other : Selection) (text : Points), secondPage.condition = other.condition →
        mysql.select secondPage = .ok text → mysql.select other = .ok text →
          secondPage = other := by
  have hOffered : mysql.IsOffered := Or.inl (by simp [builtin])
  have hTen : isWritable 10 = true := by decide +kernel
  have hNumbers : secondPage.IsWritable := by
    constructor <;> rintro number ⟨⟩ <;> exact hTen
  have hOffset : Selection.IsWritable { secondPage with limit := none } := by
    constructor
    · rintro number ⟨⟩
    · rintro number ⟨⟩
      exact hTen
  obtain ⟨hRefused, hShown⟩ := select_pages hOffered
  refine ⟨(hRefused _ hNumbers).2 ?_, (hRefused _ hOffset).1.2 ?_, hShown secondPage⟩
  · rw [← missingFeature?_eq_none_iff]
    rfl
  · exact Or.inr ⟨by decide, Or.inr ⟨rfl, rfl⟩⟩

end Dialect

end SqlDialects
