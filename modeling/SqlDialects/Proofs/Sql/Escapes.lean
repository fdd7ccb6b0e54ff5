import Mathlib.Data.List.Induction
import SqlDialects.Proofs.Converter.Literals
import SqlDialects.Proofs.Sql.Quotation

/-!
# Backslashes in literals

MySQL takes a backslash in a string literal for the start of an escape.  Quoting writes
apostrophes twice and leaves backslashes as they are, so a text is read again if and only if
each of its backslashes stands before a point that has no escape
(`Escapes.close?_doubled_iff`).  Defaults are no exception (`Dialect.mysql_readsDefault`).
-/

namespace SqlDialects

open Text (Points CodePoint)

namespace Sql

def backslash : CodePoint := .char '\\'

/-- What a point stands for behind a backslash.  Where there is no such meaning, the
backslash and the point stand for themselves. -/
structure Escapes where
  meaning? : CodePoint → Option CodePoint
  meaning?_apostrophe : meaning? apostrophe = some apostrophe
  meaning?_backslash : meaning? backslash = some backslash

namespace Escapes

/-- Every point stands for itself behind a backslash. -/
def plain : Escapes where
  meaning? := some
  meaning?_apostrophe := rfl
  meaning?_backslash := rfl

/-- The escapes of MySQL: some letters stand for control characters, and the wildcards of
patterns keep their backslash. -/
def mysql : Escapes where
  meaning?
    | .char '0' => some (.char '\x00')
    | .char 'b' => some (.char '\x08')
    | .char 'n' => some (.char '\n')
    | .char 'r' => some (.char '\r')
    | .char 't' => some (.char '\t')
    | .char 'Z' => some (.char '\x1A')
    | .char '%' | .char '_' => none
    | point => some point
  meaning?_apostrophe := rfl
  meaning?_backslash := rfl

variable (escapes : Escapes)

/-! ## Reading -/

/-- The points that a backslash and its next point stand for. -/
def escaped (next : CodePoint) : List CodePoint :=
  match escapes.meaning? next with
  | some point => [point]
  | none => [backslash, next]

/-- The text of a string literal whose first apostrophe has been read, and what follows its
last one. -/
def close? : List CodePoint → Option (List CodePoint × List CodePoint)
  | [] => none
  | [point] => if point = apostrophe then some ([], []) else none
  | point :: next :: rest =>
    if point = backslash then (close? rest).map (Prod.map (escapes.escaped next ++ ·) id)
    else if point ≠ apostrophe then (close? (next :: rest)).map (Prod.map (point :: ·) id)
    else if next = apostrophe then (close? rest).map (Prod.map (apostrophe :: ·) id)
    else some ([], next :: rest)

/-- The text of the string literal that stands first, and what follows it. -/
def read? : List CodePoint → Option (List CodePoint × List CodePoint)
  | [] => none
  | point :: rest => if point = apostrophe then escapes.close? rest else none

theorem close?_backslash (next : CodePoint) (rest : List CodePoint) :
    escapes.close? (backslash :: next :: rest) =
      (escapes.close? rest).map (Prod.map (escapes.escaped next ++ ·) id) := by
  rw [close?, if_pos rfl]

theorem close?_cons {point : CodePoint} (hBackslash : point ≠ backslash)
    (hApostrophe : point ≠ apostrophe) {rest : List CodePoint} (hRest : rest ≠ []) :
    escapes.close? (point :: rest) = (escapes.close? rest).map (Prod.map (point :: ·) id) := by
  cases rest with
  | nil => contradiction
  | cons next rest => rw [close?, if_neg hBackslash, if_pos hApostrophe]

theorem close?_apostrophes (rest : List CodePoint) :
    escapes.close? (apostrophe :: apostrophe :: rest) =
      (escapes.close? rest).map (Prod.map (apostrophe :: ·) id) := by
  rw [close?, if_neg (by decide), if_neg (by simp), if_pos rfl]

theorem close?_last {after : List CodePoint} (hAfter : after.head? ≠ some apostrophe) :
    escapes.close? (apostrophe :: after) = some ([], after) := by
  cases after with
  | nil => rw [close?, if_pos rfl]
  | cons next rest =>
      rw [close?, if_neg (by decide), if_neg (by simp), if_neg (by simpa using hAfter)]

theorem length_escaped_add_count (next : CodePoint) :
    (escapes.escaped next).length + (escapes.escaped next).count apostrophe ≤ 2 := by
  unfold escaped
  cases hMeaning : escapes.meaning? next with
  | some point =>
      have hCount := List.count_le_length (a := apostrophe) (l := [point])
      simp only [List.length_singleton] at hCount ⊢
      omega
  | none =>
      have hNext : next ≠ apostrophe := by
        rintro rfl
        simp [escapes.meaning?_apostrophe] at hMeaning
      have hCount : [backslash, next].count apostrophe = 0 := by
        simp [hNext, show backslash ≠ apostrophe by decide]
      simp [hCount]

/-- Each point of a text is read from a point of its literal, and each apostrophe from two. -/
theorem length_add_count_lt {points text after : List CodePoint}
    (hClosed : escapes.close? points = some (text, after)) :
    text.length + text.count apostrophe + after.length < points.length := by
  fun_induction escapes.close? points generalizing text after with
  | case1 => cases hClosed
  | case2 =>
      cases hClosed
      simp
  | case3 => cases hClosed
  | case4 next rest ih =>
      obtain ⟨⟨text, after⟩, hRest, hEqual⟩ := Option.map_eq_some_iff.1 hClosed
      cases hEqual
      have hEscaped := escapes.length_escaped_add_count next
      have hLess := ih hRest
      simp only [id_eq, List.length_append, List.count_append, List.length_cons]
      omega
  | case5 point next rest hBackslash hApostrophe ih =>
      obtain ⟨⟨text, after⟩, hRest, hEqual⟩ := Option.map_eq_some_iff.1 hClosed
      cases hEqual
      have hLess := ih hRest
      simp only [id_eq, List.length_cons, List.count_cons_of_ne hApostrophe] at hLess ⊢
      omega
  | case6 point rest hBackslash hApostrophe ih =>
      obtain ⟨⟨text, after⟩, hRest, hEqual⟩ := Option.map_eq_some_iff.1 hClosed
      cases hEqual
      have hLess := ih hRest
      simp only [id_eq, List.length_cons, List.count_cons_self]
      omega
  | case7 =>
      cases hClosed
      simp

/-! ## Quoted texts -/

theorem length_doubled (text : List CodePoint) :
    (doubled apostrophe text).length = text.length + text.count apostrophe := by
  induction text with
  | nil => rfl
  | cons point text ih =>
      by_cases hPoint : point = apostrophe
      · subst hPoint
        simp only [doubled_cons_self, List.length_cons, List.count_cons_self, ih]
        omega
      · simp only [doubled_cons hPoint, List.length_cons, List.count_cons_of_ne hPoint, ih]
        omega

/-- Each backslash of a text stands before a point that has no escape. -/
def Spares (text : List CodePoint) : Prop :=
  ∀ before rest, text = before ++ backslash :: rest →
    ∃ next ∈ rest.head?, escapes.meaning? next = none

variable {escapes}

theorem spares_nil : escapes.Spares [] := by
  rintro before rest hSplit
  simp at hSplit

theorem spares_cons_iff {point : CodePoint} {text : List CodePoint} :
    escapes.Spares (point :: text) ↔
      (point = backslash → ∃ next ∈ text.head?, escapes.meaning? next = none) ∧
        escapes.Spares text := by
  constructor
  · intro hSpares
    refine ⟨fun hPoint => hSpares [] text (by rw [hPoint, List.nil_append]), ?_⟩
    rintro before rest rfl
    exact hSpares (point :: before) rest rfl
  · rintro ⟨hPoint, hText⟩ before rest hSplit
    cases before with
    | nil =>
        obtain ⟨rfl, rfl⟩ := List.cons_eq_cons.1 hSplit
        exact hPoint rfl
    | cons other before => exact hText before rest (List.cons_eq_cons.1 hSplit).2

instance decidableSpares : DecidablePred escapes.Spares
  | [] => .isTrue spares_nil
  | _ :: text =>
    have : Decidable (escapes.Spares text) := decidableSpares text
    decidable_of_iff _ spares_cons_iff.symm

theorem spares_cons {point : CodePoint} (hPoint : point ≠ backslash) {text : List CodePoint} :
    escapes.Spares (point :: text) ↔ escapes.Spares text := by
  simp [spares_cons_iff, hPoint]

theorem spares_backslash {next : CodePoint} {text : List CodePoint} :
    escapes.Spares (backslash :: next :: text) ↔
      escapes.meaning? next = none ∧ escapes.Spares text := by
  rw [spares_cons_iff]
  constructor
  · rintro ⟨hNext, hText⟩
    obtain ⟨other, hOther, hMeaning⟩ := hNext rfl
    obtain rfl : next = other := Option.some.inj hOther
    exact ⟨hMeaning, (spares_cons_iff.1 hText).2⟩
  · rintro ⟨hMeaning, hText⟩
    have hNext : next ≠ backslash := by
      rintro rfl
      simp [escapes.meaning?_backslash] at hMeaning
    exact ⟨fun _ => ⟨next, rfl, hMeaning⟩, (spares_cons hNext).2 hText⟩

theorem spares_plain_iff {text : List CodePoint} : plain.Spares text ↔ backslash ∉ text := by
  constructor
  · intro hSpares hMem
    obtain ⟨before, rest, hSplit⟩ := List.append_of_mem hMem
    obtain ⟨next, -, hMeaning⟩ := hSpares before rest hSplit
    cases hMeaning
  · rintro hText before rest rfl
    simp at hText

theorem map_cons_eq_some_iff {point : CodePoint} {text after : List CodePoint}
    {outcome : Option (List CodePoint × List CodePoint)} :
    outcome.map (Prod.map (point :: ·) id) = some (point :: text, after) ↔
      outcome = some (text, after) := by
  cases outcome <;> simp [Prod.ext_iff]

/-- An escape is undone only where there is none: what it stands for is shorter. -/
theorem close?_doubled_backslash_iff {next : CodePoint} {text after : List CodePoint} :
    escapes.close? (doubled apostrophe (backslash :: next :: text) ++ apostrophe :: after) =
        some (backslash :: next :: text, after) ↔
      escapes.meaning? next = none ∧
        escapes.close? (doubled apostrophe text ++ apostrophe :: after) = some (text, after) := by
  rw [doubled_cons (by decide)]
  by_cases hNext : next = apostrophe
  · -- The backslash takes one of the two apostrophes, so the text starts with the other.
    subst hNext
    simp only [doubled_cons_self, List.cons_append, close?_backslash, escaped,
      escapes.meaning?_apostrophe]
    simp [Prod.ext_iff, show apostrophe ≠ backslash by decide]
  · rw [doubled_cons hNext, List.cons_append, List.cons_append, close?_backslash, escaped]
    cases hMeaning : escapes.meaning? next with
    | none =>
        cases escapes.close? (doubled apostrophe text ++ apostrophe :: after) <;>
          simp [Prod.ext_iff]
    | some point =>
        simp only [reduceCtorEq, false_and, iff_false]
        intro hClosed
        obtain ⟨⟨other, _⟩, hRest, hEqual⟩ := Option.map_eq_some_iff.1 hClosed
        cases hEqual
        have hLess := escapes.length_add_count_lt hRest
        simp only [id_eq, List.length_append, length_doubled, List.length_cons,
          List.count_cons_of_ne hNext] at hLess
        omega

theorem close?_doubled_cons_iff {point : CodePoint} (hPoint : point ≠ backslash)
    {text after : List CodePoint} :
    escapes.close? (doubled apostrophe (point :: text) ++ apostrophe :: after) =
        some (point :: text, after) ↔
      escapes.close? (doubled apostrophe text ++ apostrophe :: after) = some (text, after) := by
  by_cases hApostrophe : point = apostrophe
  · subst hApostrophe
    rw [doubled_cons_self, List.cons_append, List.cons_append, close?_apostrophes,
      map_cons_eq_some_iff]
  · rw [doubled_cons hApostrophe, List.cons_append,
      escapes.close?_cons hPoint hApostrophe (by simp), map_cons_eq_some_iff]

/-- Quoting is undone if and only if the escapes spare the text. -/
theorem close?_doubled_iff {after : List CodePoint} (hAfter : after.head? ≠ some apostrophe)
    (text : List CodePoint) :
    escapes.close? (doubled apostrophe text ++ apostrophe :: after) = some (text, after) ↔
      escapes.Spares text := by
  have hNil : escapes.close? (doubled apostrophe [] ++ apostrophe :: after) = some ([], after) :=
    escapes.close?_last hAfter
  -- A backslash is read together with the point behind it.
  induction text using List.twoStepInduction with
  | nil => simp only [hNil, spares_nil]
  | singleton point =>
      by_cases hPoint : point = backslash
      · subst hPoint
        rw [doubled_cons (by decide), List.cons_append]
        simp only [doubled, List.flatMap_nil, List.nil_append, close?_backslash, escaped,
          escapes.meaning?_apostrophe]
        simp [Prod.ext_iff, show apostrophe ≠ backslash by decide, spares_cons_iff]
      · simp only [close?_doubled_cons_iff hPoint, spares_cons hPoint, hNil, spares_nil]
  | cons_cons point next text ih ih' =>
      by_cases hPoint : point = backslash
      · subst hPoint
        rw [close?_doubled_backslash_iff, spares_backslash]
        exact and_congr_right' ih
      · rw [close?_doubled_cons_iff hPoint, spares_cons hPoint]
        exact ih' next

theorem read?_quoteLiteral_iff {after : List CodePoint} (hAfter : after.head? ≠ some apostrophe)
    (text : Points) :
    escapes.read? ((quoteLiteral text).toList ++ after) = some (text.toList, after) ↔
      escapes.Spares text.toList := by
  rw [toList_quoteLiteral, quotation, List.cons_append, read?, if_pos rfl, List.append_assoc,
    List.singleton_append, close?_doubled_iff hAfter]

/-- A literal that ends before its last apostrophe leaves the rest of the text to the
statement. -/
example : plain.read? (quoteLiteral (Points.ofString "\\', b")).toList =
    some ((Points.ofString "'").toList, (Points.ofString ", b'").toList) := by
  decide

end Escapes

end Sql

/-! ## Defaults -/

namespace Dialect

open Sql (Escapes apostrophe)

theorem mysql_converterFor_text {sqlType : SqlType}
    (hType : sqlType = .string ∨ sqlType = .longString ∨ sqlType = .char) :
    (∃ kind, mysql.converterFor sqlType = .text kind) ∨ mysql.converterFor sqlType = .char := by
  rcases hType with rfl | rfl | rfl
  · exact .inl ⟨.string, rfl⟩
  · exact .inl ⟨.longString, rfl⟩
  · exact .inr rfl

theorem mysql_defaultClause_text {field : FieldSpec} {text : Points} {value : DefaultValue}
    (hType : field.sqlType = .string ∨ field.sqlType = .longString ∨ field.sqlType = .char)
    (hDefault : field.default = some text)
    (hParsed : (mysql.converterFor field.sqlType).parseDefault field.name text = .ok value) :
    mysql.defaultClause field = .ok ("DEFAULT " ++ quoteLiteral text) := by
  have hText := mysql_converterFor_text hType
  have hQuotes : (mysql.converterFor field.sqlType).quotesDefault = true := by
    rcases hText with ⟨kind, hKind⟩ | hChar
    · rw [hKind]
      rfl
    · rw [hChar]
      rfl
  simp only [defaultClause, hDefault, hParsed, hQuotes, if_true,
    Converter.literal_of_text hText hParsed]

/-- The default of a text field is a literal.  MySQL reads it as this default, whatever
stands behind it, if and only if its escapes spare the default.  Escapes of every point spare
the texts without a backslash only (`Sql.Escapes.spares_plain_iff`). -/
theorem mysql_readsDefault (escapes : Escapes) {field : FieldSpec} {text : Points}
    {value : DefaultValue}
    (hType : field.sqlType = .string ∨ field.sqlType = .longString ∨ field.sqlType = .char)
    (hDefault : field.default = some text)
    (hParsed : (mysql.converterFor field.sqlType).parseDefault field.name text = .ok value) :
    ∃ literal : Points, mysql.defaultClause field = .ok ("DEFAULT " ++ literal) ∧
      ∀ after, after.head? ≠ some apostrophe →
        (escapes.read? (literal.toList ++ after) = some (text.toList, after) ↔
          escapes.Spares text.toList) :=
  ⟨quoteLiteral text, mysql_defaultClause_text hType hDefault hParsed,
    fun _ hAfter => Escapes.read?_quoteLiteral_iff hAfter text⟩

/-- A text field with a given default. -/
def textField (default : String) : Field where
  name := "path"
  sqlType := .string
  width := 0
  columnName := none
  id := false
  generatedId := false
  generatedIdSequence := none
  allowGeneratedIdInsert := false
  nullable := true
  unique := false
  default := some default
  name_ne_empty := by decide
  oneIdFlag := by simp [FieldSpec.idFlagCount]
  insertNeedsGeneratedId := nofun

/-- A text with an apostrophe, and with a backslash that has no escape. -/
def wildcardText : String :=
  "it's 5\\%"

theorem mysql_readsDefault_wildcardText :
    ∃ literal : Points,
      mysql.defaultClause (textField wildcardText).toFieldSpec = .ok ("DEFAULT " ++ literal) ∧
      Escapes.mysql.read? (literal.toList ++ [.char ',']) =
        some ((Points.ofString wildcardText).toList, [.char ',']) := by
  have hParsed : (mysql.converterFor .string).parseDefault "path" (Points.ofString wildcardText) =
      .ok (.text wildcardText) := by
    rw [Converter.parseDefault, Points.content_ofString]
    rfl
  have hSpares : Escapes.mysql.Spares (Points.ofString wildcardText).toList := by decide
  obtain ⟨literal, hLiteral, hReads⟩ := @mysql_readsDefault Escapes.mysql
    (textField wildcardText).toFieldSpec wildcardText _ (.inl rfl) rfl hParsed
  exact ⟨literal, hLiteral, (hReads [.char ','] (by decide)).2 hSpares⟩

/-- A backslash at the end takes the last apostrophe, and the literal does not end. -/
theorem mysql_defaultClause_endless :
    mysql.defaultClause (textField "C:\\").toFieldSpec =
        .ok (Points.ofString "DEFAULT 'C:\\'") ∧
      ∀ escapes : Escapes, escapes.read? (Points.ofString "'C:\\'").toList = none := by
  constructor
  · rfl
  · intro escapes
    rfl

end Dialect

end SqlDialects
