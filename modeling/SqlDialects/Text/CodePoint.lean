import SqlDialects.Text.Quoted
import SqlDialects.Text.Utf8

/-!
# Ill-formed texts

An escape may put half a surrogate pair into a text.  Such a text has code points, but it is
no sequence of characters and has no bytes.  A text of characters is one of code points as
well (`Points.ofString`), and what has to be read from characters is read from `content`.
-/

namespace SqlDialects.Text

/-- A character or half a surrogate pair, which is given by its distance from the first half. -/
inductive CodePoint where
  | char (c : Char)
  | half (offset : Fin 0x800)
deriving DecidableEq, Repr

namespace CodePoint

instance : Coe Char CodePoint := ⟨char⟩

def isHalf : CodePoint → Bool
  | char _ => false
  | half _ => true

def shown : CodePoint → Char
  | char c => c
  | half _ => '\uFFFD'

def isBlank : CodePoint → Bool
  | char c => Text.isBlank c
  | half _ => false

def halfNumber (offset : Fin 0x800) : Nat :=
  0xD800 + offset

/-- The code point of a number below `0x110000`. -/
def ofNat (number : Nat) : CodePoint :=
  if 0xD800 ≤ number ∧ number < 0xE000 then half (Fin.ofNat 0x800 (number - 0xD800))
  else char (Char.ofNat number)

def ofPair (high low : Nat) : CodePoint :=
  char (Char.ofNat (0x10000 + (high - 0xD800) * 1024 + (low - 0xDC00)))

/-- The bytes of a code point; those of a half are not found in UTF-8. -/
def bytes : CodePoint → List UInt8
  | char c => encodeUtf8 (String.singleton c)
  | half offset =>
    let number := halfNumber offset
    [0xED, UInt8.ofNat (0x80 + number / 64 % 64), UInt8.ofNat (0x80 + number % 64)]

def escape (offset : Fin 0x800) : List Char :=
  '\\' :: 'u' :: hexDigits 4 (halfNumber offset)

end CodePoint

/-! ## Texts in code points -/

@[ext]
structure Points where
  toList : List CodePoint
deriving DecidableEq, Repr

namespace Points

def ofString (text : String) : Points :=
  ⟨text.toList.map .char⟩

instance : Coe String Points := ⟨ofString⟩

instance : Append Points := ⟨fun first second => ⟨first.toList ++ second.toList⟩⟩

def length (points : Points) : Nat :=
  points.toList.length

def intercalate (separator : Points) (parts : List Points) : Points :=
  ⟨separator.toList.intercalate (parts.map toList)⟩

def isWellFormed (points : Points) : Bool :=
  points.toList.all fun point => !point.isHalf

def shown (points : Points) : String :=
  String.ofList (points.toList.map CodePoint.shown)

def trim (points : Points) : Points :=
  ⟨trimBy CodePoint.isBlank points.toList⟩

def trimEnd (points : Points) : Points :=
  ⟨trimEndBy CodePoint.isBlank points.toList⟩

def mapCase (change : Char → List Char) (points : Points) : Points :=
  ⟨points.toList.flatMap fun point =>
    match point with
    | .char c => (change c).map .char
    | .half offset => [.half offset]⟩

def toUpper : Points → Points :=
  mapCase (shiftCase upperShifts upperExpansions)

def toLower : Points → Points :=
  mapCase (shiftCase lowerShifts lowerExpansions)

end Points

def Points.escaped (points : Points) : String :=
  String.ofList (points.toList.flatMap fun point =>
    match point with
    | .char c => [c]
    | .half offset => CodePoint.escape offset)

/-- The text with a replacement character for each byte that UTF-8 does not have. -/
def Points.replaced (points : Points) : String :=
  String.ofList (points.toList.flatMap fun point =>
    match point with
    | .char c => [c]
    | .half _ => point.bytes.map fun _ => '\uFFFD')

def quotePoint (quote : Char) : CodePoint → List Char
  | .char c => quoteChar quote c
  | .half offset => CodePoint.escape offset

def quotedPoints (points : Points) : String :=
  let quote := quoteFor (points.toList.map CodePoint.shown)
  String.ofList (quote :: points.toList.flatMap (quotePoint quote) ++ [quote])

/-! ## Bytes -/

/-- Why a text has no bytes: halves of surrogate pairs stand from `start` to `stop`, the
latter excluded; the first of them is `half`. -/
structure EncodingFault where
  start : Nat
  stop : Nat
  half : Fin 0x800
deriving DecidableEq, Repr

def firstHalves? : (position : Nat) → List CodePoint → Option EncodingFault
  | _, [] => none
  | position, .char _ :: rest => firstHalves? (position + 1) rest
  | position, .half offset :: rest =>
    some ⟨position, position + 1 + (rest.takeWhile CodePoint.isHalf).length, offset⟩

def EncodingFault.message (fault : EncodingFault) : String :=
  let subject :=
    if fault.stop = fault.start + 1 then
      "character '" ++ String.ofList (CodePoint.escape fault.half)
        ++ s!"' in position {fault.start}"
    else s!"characters in position {fault.start}-{fault.stop - 1}"
  "'utf-8' codec can't encode " ++ subject ++ ": surrogates not allowed"

/-- The half of a surrogate pair whose bytes, as `CodePoint.bytes` gives them, come first. -/
def halfAt? : List UInt8 → Option (Fin 0x800)
  | 0xED :: second :: third :: _ =>
    if 0xA0 ≤ second ∧ second < 0xC0 ∧ 0x80 ≤ third ∧ third < 0xC0 then
      some (Fin.ofNat 0x800 ((second.toNat - 0xA0) * 64 + (third.toNat - 0x80)))
    else none
  | _ => none

def decodePointsFrom : (fuel position : Nat) → List UInt8 → Except Utf8Error (List CodePoint)
  | 0, _, _ => .ok []
  | fuel + 1, position, bytes =>
    match decodeUtf8 bytes with
    | .ok text => .ok (Points.ofString text).toList
    | .error error =>
      match halfAt? (bytes.drop error.start) with
      | none =>
        .error { error with start := position + error.start, stop := position + error.stop }
      | some half => do
        let before ← decodeUtf8 (bytes.take error.start)
        let rest ← decodePointsFrom fuel (position + error.start + 3)
          (bytes.drop (error.start + 3))
        return (Points.ofString before).toList ++ .half half :: rest

def decodePoints (bytes : List UInt8) : Except Utf8Error Points :=
  (decodePointsFrom (bytes.length + 1) 0 bytes).map Points.mk

theorem firstHalves?_isSome (position : Nat) (points : List CodePoint) :
    (firstHalves? position points).isSome = !(points.all fun point => !point.isHalf) := by
  induction points generalizing position with
  | nil => rfl
  | cons point points ih =>
    cases point with
    | char c => simpa [firstHalves?, CodePoint.isHalf] using ih (position + 1)
    | half offset => simp [firstHalves?, CodePoint.isHalf]

structure IllFormed extends Points where
  not_wellFormed : toPoints.isWellFormed = false
deriving DecidableEq, Repr

def IllFormed.encodingFault (text : IllFormed) : EncodingFault :=
  (firstHalves? 0 text.toList).get (by
    rw [firstHalves?_isSome, ← Points.isWellFormed, text.not_wellFormed]
    rfl)

def Points.content (points : Points) : String ⊕ IllFormed :=
  if h : points.isWellFormed = true then .inl points.shown
  else .inr ⟨points, by simpa using h⟩

namespace Points

/-! ## Texts as lists -/

@[simp] theorem toList_ofString (text : String) : (ofString text).toList = text.toList.map .char :=
  rfl

@[simp] theorem toList_append (first second : Points) :
    (first ++ second).toList = first.toList ++ second.toList :=
  rfl

@[simp] theorem toList_intercalate (separator : Points) (parts : List Points) :
    (separator.intercalate parts).toList = separator.toList.intercalate (parts.map toList) :=
  rfl

@[simp] theorem intercalate_singleton (separator text : Points) :
    separator.intercalate [text] = text := by
  simp [intercalate]

theorem toList_inj {first second : Points} : first.toList = second.toList ↔ first = second :=
  Points.ext_iff.symm

theorem map_char_inj {first second : List Char} :
    first.map CodePoint.char = second.map CodePoint.char ↔ first = second :=
  List.map_inj_right fun _ _ hEqual => CodePoint.char.inj hEqual

@[simp] theorem ofString_inj {first second : String} :
    ofString first = ofString second ↔ first = second := by
  rw [← toList_inj, toList_ofString, toList_ofString, map_char_inj, String.toList_inj]

theorem ofString_append (first second : String) :
    ofString (first ++ second) = ofString first ++ ofString second := by
  simp [← toList_inj]

theorem append_assoc (first second third : Points) :
    first ++ second ++ third = first ++ (second ++ third) := by
  simp [← toList_inj]

@[simp] theorem append_empty (text : Points) : text ++ ofString "" = text := by
  simp [← toList_inj]

@[simp] theorem empty_append (text : Points) : ofString "" ++ text = text := by
  simp [← toList_inj]

theorem append_cancel {first second third : Points} (hEqual : first ++ second = first ++ third) :
    second = third :=
  toList_inj.1 (List.append_cancel_left (congrArg toList hEqual))

@[simp] theorem toList_eq_nil_iff {points : Points} : points.toList = [] ↔ points = "" :=
  @toList_inj points (ofString "")

/-! ## Well-formed texts -/

@[simp] theorem isWellFormed_ofString (text : String) : (ofString text).isWellFormed = true := by
  simp [isWellFormed, CodePoint.isHalf]

@[simp] theorem shown_ofString (text : String) : (ofString text).shown = text := by
  simp [shown, Function.comp_def, CodePoint.shown]

@[simp] theorem content_ofString (text : String) : (ofString text).content = .inl text := by
  simp [content]

theorem ofString_shown {points : Points} (hFormed : points.isWellFormed = true) :
    ofString points.shown = points := by
  obtain ⟨points⟩ := points
  have hChars : points.map (fun point => CodePoint.char point.shown) = points := by
    rw [List.map_congr_left (g := id) fun point hMem => ?_, List.map_id]
    have hPoint := List.all_eq_true.1 hFormed point hMem
    cases point with
    | char c => rfl
    | half offset => cases hPoint
  simpa [ofString, shown, Function.comp_def] using hChars

theorem isWellFormed_of_content {points : Points} {text : String}
    (hText : points.content = .inl text) : points.isWellFormed = true := by
  unfold content at hText
  split at hText
  · assumption
  · cases hText

theorem eq_of_content {points : Points} {illFormed : IllFormed}
    (hIll : points.content = .inr illFormed) : illFormed.toPoints = points := by
  unfold content at hIll
  split at hIll
  · cases hIll
  · cases hIll
    rfl

theorem ofString_of_content {points : Points} {text : String}
    (hText : points.content = .inl text) : ofString text = points := by
  have hFormed := isWellFormed_of_content hText
  rw [content, dif_pos hFormed, Sum.inl.injEq] at hText
  rw [← hText, ofString_shown hFormed]

theorem ofString_or_illFormed (points : Points) :
    (∃ text : String, points = text) ∨ points.isWellFormed = false := by
  cases hFormed : points.isWellFormed with
  | true => exact .inl ⟨points.shown, (ofString_shown hFormed).symm⟩
  | false => exact .inr rfl

end Points

end SqlDialects.Text
