import SqlDialects.Proofs.Sql.Quotation

/-!
# What a literal denotes

A string literal denotes the text between its apostrophes, in which two apostrophes stand
for one.  Any other literal denotes itself.
-/

namespace SqlDialects.Sql

open Text (Points CodePoint)

/-- The text of a string literal whose first apostrophe has been read, if nothing follows its
last one. -/
def closedText? : List CodePoint → Option (List CodePoint)
  | [] => none
  | [point] => if point = apostrophe then some [] else none
  | point :: next :: rest =>
    if point ≠ apostrophe then (closedText? (next :: rest)).map (point :: ·)
    else if next = apostrophe then (closedText? rest).map (apostrophe :: ·)
    else none

/-- The text that a literal denotes. -/
def denoted? (literal : Points) : Option Points :=
  if literal.toList.head? = some apostrophe then (closedText? literal.toList.tail).map Points.mk
  else some literal

theorem closedText?_cons {point : CodePoint} (hPoint : point ≠ apostrophe) {rest : List CodePoint}
    (hRest : rest ≠ []) : closedText? (point :: rest) = (closedText? rest).map (point :: ·) := by
  cases rest with
  | nil => contradiction
  | cons next rest => rw [closedText?, if_pos hPoint]

theorem closedText?_doubled (text : List CodePoint) :
    closedText? (doubled apostrophe text ++ [apostrophe]) = some text := by
  induction text with
  | nil => rfl
  | cons point text ih =>
      by_cases hPoint : point = apostrophe
      · subst hPoint
        simp [doubled_cons_self, closedText?, ih]
      · rw [doubled_cons hPoint, List.cons_append, closedText?_cons hPoint (by simp), ih]
        rfl

theorem denoted?_quoteLiteral (text : Points) : denoted? (quoteLiteral text) = some text := by
  rw [denoted?, toList_quoteLiteral, quotation, List.head?_cons, if_pos rfl, List.tail_cons,
    closedText?_doubled]
  rfl

theorem denoted?_of_head? {literal : Points} (hHead : literal.toList.head? ≠ some apostrophe) :
    denoted? literal = some literal :=
  if_neg hHead

end SqlDialects.Sql
