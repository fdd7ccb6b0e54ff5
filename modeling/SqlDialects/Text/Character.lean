import SqlDialects.Text.PrintableTable
import SqlDialects.Text.WordTable
import SqlDialects.Text.CaseTable

/-!
# Character classes

The classes of characters that the readers of this library distinguish: blanks,
decimal digits of any script, printable characters, word characters, and the
two letter cases.
-/

namespace SqlDialects.Text

def inRanges (ranges : Array (Nat × Nat)) (c : Char) : Bool :=
  ranges.any fun range => decide (range.1 ≤ c.toNat) && decide (c.toNat ≤ range.2)

/-! ## Blanks -/

def isAsciiBlank (c : Char) : Bool :=
  c == ' ' || (decide (9 ≤ c.toNat) && decide (c.toNat ≤ 13))

def isWideBlank (c : Char) : Bool :=
  let n := c.toNat
  n == 0x85 || n == 0xA0 || n == 0x1680 || (decide (0x2000 ≤ n) && decide (n ≤ 0x200A))
    || n == 0x2028 || n == 0x2029 || n == 0x202F || n == 0x205F || n == 0x3000

def isBlank (c : Char) : Bool :=
  isAsciiBlank c || (decide (28 ≤ c.toNat) && decide (c.toNat ≤ 31)) || isWideBlank c

theorem isBlank_of_isDigit {c : Char} (hDigit : c.isDigit = true) : isBlank c = false := by
  simp only [Char.isDigit, Bool.and_eq_true, decide_eq_true_eq] at hDigit
  have hLow : 48 ≤ c.toNat := hDigit.1
  have hHigh : c.toNat ≤ 57 := hDigit.2
  have hSpace : c ≠ ' ' := by
    rintro rfl
    contradiction
  simp [isBlank, isAsciiBlank, isWideBlank, hSpace]
  omega

/-- White space, which is a blank that is no information separator. -/
def isWhiteSpace (c : Char) : Bool :=
  isAsciiBlank c || isWideBlank c

section

variable {α : Type} {isTrimmed : α → Bool} {text : List α}

def trimStartBy (isTrimmed : α → Bool) (text : List α) : List α :=
  text.dropWhile isTrimmed

def trimEndBy (isTrimmed : α → Bool) (text : List α) : List α :=
  (text.reverse.dropWhile isTrimmed).reverse

def trimBy (isTrimmed : α → Bool) (text : List α) : List α :=
  trimEndBy isTrimmed (trimStartBy isTrimmed text)

theorem trimBy_of_ends (hFirst : ∀ c, text.head? = some c → isTrimmed c = false)
    (hLast : ∀ c, text.getLast? = some c → isTrimmed c = false) :
    trimBy isTrimmed text = text := by
  have hKept {part : List α} (hPart : ∀ c, part.head? = some c → isTrimmed c = false) :
      part.dropWhile isTrimmed = part := by
    cases part with
    | nil => rfl
    | cons c rest => simp [hPart c rfl]
  have hReversed : ∀ c, text.reverse.head? = some c → isTrimmed c = false := by
    simpa using hLast
  rw [trimBy, trimStartBy, hKept hFirst, trimEndBy, hKept hReversed, List.reverse_reverse]

theorem trimBy_of_forall (hText : ∀ c ∈ text, isTrimmed c = false) :
    trimBy isTrimmed text = text :=
  trimBy_of_ends (fun c hFirst => hText c (List.mem_of_head? hFirst))
    fun c hLast => hText c (List.mem_of_getLast? hLast)

end

def trim (text : String) : String :=
  String.ofList (trimBy isBlank text.toList)

/-! ## Digits -/

def scriptZeros : List Nat :=
  [0x30, 0x660, 0x6f0, 0x7c0, 0x966, 0x9e6, 0xa66, 0xae6, 0xb66, 0xbe6, 0xc66, 0xce6, 0xd66,
    0xde6, 0xe50, 0xed0, 0xf20, 0x1040, 0x1090, 0x17e0, 0x1810, 0x1946, 0x19d0, 0x1a80, 0x1a90,
    0x1b50, 0x1bb0, 0x1c40, 0x1c50, 0xa620, 0xa8d0, 0xa900, 0xa9d0, 0xa9f0, 0xaa50, 0xabf0,
    0xff10, 0x104a0, 0x10d30, 0x11066, 0x110f0, 0x11136, 0x111d0, 0x112f0, 0x11450, 0x114d0,
    0x11650, 0x116c0, 0x11730, 0x118e0, 0x11950, 0x11c50, 0x11d50, 0x11da0, 0x16a60, 0x16ac0,
    0x16b50, 0x1d7ce, 0x1d7d8, 0x1d7e2, 0x1d7ec, 0x1d7f6, 0x1e140, 0x1e2f0, 0x1e950, 0x1fbf0]

def asciiDigit? (c : Char) : Option Nat :=
  if decide ('0' ≤ c) && decide (c ≤ '9') then some (c.toNat - 48) else none

def digit? (c : Char) : Option Nat :=
  (scriptZeros.find? fun first => decide (first ≤ c.toNat) && decide (c.toNat < first + 10)).map
    (c.toNat - ·)

/-- The ASCII character that a numeral holds at this place: a blank for a blank
beyond ASCII and the ASCII digit for a digit of any script. -/
def plainNumeral (c : Char) : Char :=
  if c.toNat < 128 then c
  else if isWideBlank c then ' '
  else match digit? c with
    | some value => Char.ofNat (48 + value)
    | none => c

/-! ## Printing and words -/

def isPrintable (c : Char) : Bool :=
  if c.toNat < 127 then decide (32 ≤ c.toNat) else !inRanges glyphlessRanges c

def isWord (c : Char) : Bool :=
  inRanges wordRanges c

/-! ## Letter case -/

def shiftCase (shifts : Array (Nat × Nat × Nat × Int)) (expansions : Array (Nat × List Nat))
    (c : Char) : List Char :=
  match expansions.find? fun entry => entry.1 == c.toNat with
  | some entry => entry.2.map Char.ofNat
  | none =>
    match shifts.find? fun entry =>
        decide (entry.1 ≤ c.toNat) && decide (c.toNat ≤ entry.2.1)
          && (c.toNat - entry.1) % entry.2.2.1 == 0 with
    | some entry => [Char.ofNat ((c.toNat : Int) + entry.2.2.2).toNat]
    | none => [c]

def toUpper (text : String) : String :=
  String.ofList (text.toList.flatMap (shiftCase upperShifts upperExpansions))

def toLower (text : String) : String :=
  String.ofList (text.toList.flatMap (shiftCase lowerShifts lowerExpansions))

end SqlDialects.Text
