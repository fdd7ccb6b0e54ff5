import Mathlib.Data.List.Induction
import SqlDialects.Proofs.Text.Uuid

/-!
# Spellings of identifiers

An identifier may be spelled with capital letters, with its hyphens elsewhere or without
them, after a prefix, between braces and between blanks.  Blanks at the two ends count
among the characters of which 32 have to be left.  So where they are not taken away first,
a text with blanks is not read as it is without them (`trim_eq_of_read`).
-/

namespace SqlDialects

namespace Text

variable {isTrimmed : Char → Bool} {c : Char}

theorem trimEndBy_cons (hKept : isTrimmed c = false) (text : List Char) :
    trimEndBy isTrimmed (c :: text) = c :: trimEndBy isTrimmed text := by
  simp only [trimEndBy, List.reverse_cons, List.dropWhile_append]
  split
  · next hEmpty =>
    rw [List.isEmpty_iff] at hEmpty
    simp [hKept, hEmpty]
  · simp

theorem trimStartBy_concat (hKept : isTrimmed c = false) (text : List Char) :
    trimStartBy isTrimmed (text ++ [c]) = trimStartBy isTrimmed text ++ [c] := by
  simp only [trimStartBy, List.dropWhile_append]
  split
  · next hEmpty =>
    rw [List.isEmpty_iff] at hEmpty
    simp [hKept, hEmpty]
  · rfl

theorem trimBy_cons (hKept : isTrimmed c = false) (text : List Char) :
    trimBy isTrimmed (c :: text) = c :: trimEndBy isTrimmed text := by
  have hStart : trimStartBy isTrimmed (c :: text) = c :: text := by simp [trimStartBy, hKept]
  rw [trimBy, hStart, trimEndBy_cons hKept]

theorem trimBy_concat (hKept : isTrimmed c = false) (text : List Char) :
    trimBy isTrimmed (text ++ [c]) = trimStartBy isTrimmed text ++ [c] := by
  rw [trimBy, trimStartBy_concat hKept]
  simp [trimEndBy, hKept]

theorem trimEndBy_sublist (text : List Char) : (trimEndBy isTrimmed text).Sublist text := by
  have hReversed := (List.dropWhile_sublist (l := text.reverse) isTrimmed).reverse
  rwa [List.reverse_reverse] at hReversed

theorem trimBy_sublist (text : List Char) :
    (trimBy isTrimmed text).Sublist (trimEndBy isTrimmed text) := by
  obtain ⟨before, hText⟩ := List.dropWhile_suffix (l := text) isTrimmed
  rw [trimBy, trimStartBy]
  generalize text.dropWhile isTrimmed = kept at hText
  subst hText
  apply List.Sublist.reverse
  rw [List.reverse_append, List.dropWhile_append]
  split
  · next hEmpty =>
    rw [List.isEmpty_iff] at hEmpty
    simp [hEmpty]
  · exact List.sublist_append_left _ _

/-- What is trimmed at the two ends goes, and what stands between them stays. -/
theorem trimBy_append {before text after : List Char} (hText : text ≠ [])
    (hKept : ∀ c ∈ text, isTrimmed c = false) (hBefore : ∀ c ∈ before, isTrimmed c = true)
    (hAfter : ∀ c ∈ after, isTrimmed c = true) :
    trimBy isTrimmed (before ++ text ++ after) = text := by
  have hEnd : trimEndBy isTrimmed (text ++ after) = text := by
    have hReversed : text.reverse.dropWhile isTrimmed = text.reverse := by
      rw [List.dropWhile_eq_self_iff]
      intro hLength
      rw [hKept _ (List.mem_reverse.1 (List.getElem_mem hLength))]
      simp
    have hGone : after.reverse.dropWhile isTrimmed = [] := by
      rw [List.dropWhile_eq_nil_iff]
      exact fun c hMem => hAfter c (List.mem_reverse.1 hMem)
    rw [trimEndBy, List.reverse_append, List.dropWhile_append, hGone]
    simp [hReversed]
  have hStart : trimStartBy isTrimmed (before ++ text ++ after) = text ++ after := by
    obtain ⟨c, rest, rfl⟩ := List.exists_cons_of_ne_nil hText
    have hGone : before.dropWhile isTrimmed = [] := by
      rw [List.dropWhile_eq_nil_iff]
      exact hBefore
    rw [trimStartBy, List.append_assoc, List.dropWhile_append, hGone]
    simp [hKept c (by simp)]
  rw [trimBy, hStart, hEnd]

end Text

namespace Number

theorem hexValue_map_toLower {digits : List Char} (hDigits : ∀ c ∈ digits, IsDigitOnly c)
    (value : Nat) : hexValue value (digits.map Char.toLower) = hexValue value digits := by
  induction digits generalizing value with
  | nil => rfl
  | cons c digits ih =>
      have hOthers := fun value => ih (fun other hOther => hDigits other (by simp [hOther])) value
      simp only [hexValue, List.foldl_cons, List.map_cons] at hOthers ⊢
      rw [(hDigits c (by simp)).lower, hOthers]

end Number

namespace Uuid

open Number

/-! ## Blanks that are not taken away -/

def isBrace (c : Char) : Bool :=
  c == '\x7b' || c == '\x7d'

theorem payload_eq (text : List Char) :
    payload text = (Text.trimBy isBrace
      (withoutWord "uuid:".toList (withoutWord "urn:".toList text))).filter (· != '-') :=
  rfl

/-- A character that no word and no part around the digits has. -/
structure IsStray (c : Char) : Prop where
  notUrn : c ∉ "urn:".toList
  notUuid : c ∉ "uuid:".toList
  notBrace : isBrace c = false
  notHyphen : (c != '-') = true

theorem isStray_of_isBlank {c : Char} (hBlank : Text.isBlank c = true) : IsStray c := by
  have hNone : "urn:uuid:\x7b\x7d-".toList.all (fun other => !Text.isBlank other) = true := by
    decide
  have hOther : c ∉ "urn:uuid:\x7b\x7d-".toList := by
    intro hMem
    simpa [hBlank] using List.all_eq_true.1 hNone c hMem
  have hParts : c ∉ "urn:".toList ++ "uuid:".toList ++ "\x7b\x7d-".toList := hOther
  simp only [List.mem_append, not_or] at hParts
  obtain ⟨⟨hUrn, hUuid⟩, hRest⟩ := hParts
  have hMarks : c ∉ ['\x7b', '\x7d', '-'] := hRest
  simp only [List.mem_cons, List.not_mem_nil, or_false, not_or] at hMarks
  exact ⟨hUrn, hUuid, by simpa [isBrace] using ⟨hMarks.1, hMarks.2.1⟩, by simpa using hMarks.2.2⟩

theorem IsStray.ne_first {c : Char} (hStray : IsStray c) : c ≠ 'u' := by
  rintro rfl
  exact hStray.notUrn (by decide)

section

variable {c first : Char} {word : List Char}

theorem withoutWord_cons (hOther : c ≠ first) (text : List Char) :
    withoutWord (first :: word) (c :: text) = c :: withoutWord (first :: word) text := by
  simp [withoutWord, removeWord, List.isPrefixOf, Ne.symm hOther]

theorem withoutWord_append {before : List Char} (hBefore : first ∉ before) (text : List Char) :
    withoutWord (first :: word) (before ++ text) =
      before ++ withoutWord (first :: word) text := by
  induction before with
  | nil => rfl
  | cons c before ih =>
      rw [List.mem_cons, not_or] at hBefore
      rw [List.cons_append, withoutWord_cons (Ne.symm hBefore.1), ih hBefore.2, List.cons_append]

theorem isPrefixOf_concat (hOther : c ∉ word) (text : List Char) :
    word.isPrefixOf (text ++ [c]) = word.isPrefixOf text := by
  rw [Bool.eq_iff_iff, List.isPrefixOf_iff_prefix, List.isPrefixOf_iff_prefix,
    List.prefix_concat_iff]
  refine or_iff_right fun hEqual => hOther ?_
  simp [hEqual]

theorem removeWord_concat (hOther : c ∉ first :: word) {fuel : Nat} {text : List Char}
    (hFuel : text.length < fuel) :
    removeWord (first :: word) (fuel + 1) (text ++ [c]) =
      removeWord (first :: word) fuel text ++ [c] := by
  induction fuel generalizing text with
  | zero => omega
  | succ fuel ih =>
      cases text with
      | nil =>
          have hFirst : c ≠ first := fun hEqual => hOther (by simp [hEqual])
          simp [removeWord, List.isPrefixOf, Ne.symm hFirst]
      | cons head rest =>
          rw [List.length_cons] at hFuel
          rw [List.cons_append, removeWord, removeWord, ← List.cons_append,
            isPrefixOf_concat hOther]
          split
          · next hHere =>
            have hShort := (List.isPrefixOf_iff_prefix.1 hHere).length_le
            rw [List.drop_append_of_le_length hShort]
            apply ih
            simp only [List.length_drop, List.length_cons]
            omega
          · rw [ih (by omega), List.cons_append]

theorem withoutWord_concat (hOther : c ∉ first :: word) (text : List Char) :
    withoutWord (first :: word) (text ++ [c]) = withoutWord (first :: word) text ++ [c] := by
  rw [withoutWord, withoutWord, List.length_append, List.length_singleton]
  exact removeWord_concat hOther (Nat.lt_succ_self text.length)

end

/-- A blank at the start is one of the characters that are left. -/
theorem length_payload_cons {c : Char} (hStray : IsStray c) (text : List Char) :
    (payload text).length < (payload (c :: text)).length := by
  have hUrn : withoutWord "urn:".toList (c :: text) = c :: withoutWord "urn:".toList text :=
    withoutWord_cons hStray.ne_first text
  have hUuid (other : List Char) :
      withoutWord "uuid:".toList (c :: other) = c :: withoutWord "uuid:".toList other :=
    withoutWord_cons hStray.ne_first other
  simp only [payload_eq, hUrn, hUuid, Text.trimBy_cons hStray.notBrace, List.filter_cons,
    hStray.notHyphen, if_true, List.length_cons]
  exact Nat.lt_succ_of_le ((Text.trimBy_sublist _).filter _).length_le

theorem length_payload_concat {c : Char} (hStray : IsStray c) (text : List Char) :
    (payload text).length < (payload (text ++ [c])).length := by
  have hUrn : withoutWord "urn:".toList (text ++ [c]) = withoutWord "urn:".toList text ++ [c] :=
    withoutWord_concat hStray.notUrn text
  have hUuid (other : List Char) :
      withoutWord "uuid:".toList (other ++ [c]) = withoutWord "uuid:".toList other ++ [c] :=
    withoutWord_concat hStray.notUuid other
  simp only [payload_eq, hUrn, hUuid, Text.trimBy_concat hStray.notBrace, List.filter_append,
    List.length_append, List.filter_cons, hStray.notHyphen, if_true, List.filter_nil,
    List.length_singleton]
  exact Nat.lt_succ_of_le ((Text.trimEndBy_sublist _).filter _).length_le

theorem trimStart_eq_or (text : List Char) :
    Text.trimStartBy Text.isBlank text = text ∨
      (payload (Text.trimStartBy Text.isBlank text)).length < (payload text).length := by
  induction text with
  | nil => exact .inl rfl
  | cons c text ih =>
      by_cases hBlank : Text.isBlank c = true
      · have hMore := length_payload_cons (isStray_of_isBlank hBlank) text
        have hTrimmed : Text.trimStartBy Text.isBlank (c :: text) =
            Text.trimStartBy Text.isBlank text := by
          simp [Text.trimStartBy, hBlank]
        right
        rw [hTrimmed]
        rcases ih with hSame | hFewer
        · rwa [hSame]
        · omega
      · exact .inl (by simp [Text.trimStartBy, hBlank])

theorem trimEnd_eq_or (text : List Char) :
    Text.trimEndBy Text.isBlank text = text ∨
      (payload (Text.trimEndBy Text.isBlank text)).length < (payload text).length := by
  induction text using List.reverseRecOn with
  | nil => exact .inl rfl
  | append_singleton text c ih =>
      by_cases hBlank : Text.isBlank c = true
      · have hMore := length_payload_concat (isStray_of_isBlank hBlank) text
        have hTrimmed : Text.trimEndBy Text.isBlank (text ++ [c]) =
            Text.trimEndBy Text.isBlank text := by
          simp [Text.trimEndBy, hBlank]
        right
        rw [hTrimmed]
        rcases ih with hSame | hFewer
        · rwa [hSame]
        · omega
      · exact .inl (by simp [Text.trimEndBy, hBlank])

theorem length_payload_of_read {text : String} {identifier : Uuid}
    (hRead : read text = .ok identifier) : (payload text.toList).length = 32 := by
  unfold read at hRead
  dsimp only at hRead
  split at hRead
  · cases hRead
  · next hLength => exact not_not.1 hLength

theorem trim_eq_of_read {text : String} {identifier trimmed : Uuid}
    (hRead : read text = .ok identifier) (hTrimmed : read (Text.trim text) = .ok trimmed) :
    Text.trim text = text := by
  have hLength := length_payload_of_read hRead
  have hShort := length_payload_of_read hTrimmed
  rw [Text.trim, String.toList_ofList, Text.trimBy] at hShort
  have hStart := trimStart_eq_or text.toList
  have hEnd := trimEnd_eq_or (Text.trimStartBy Text.isBlank text.toList)
  rw [Text.trim, Text.trimBy]
  rcases hEnd with hEnd | hFewer
  · rcases hStart with hStart | hFewer
    · rw [hEnd, hStart, String.ofList_toList]
    · rw [hEnd] at hShort
      omega
  · rcases hStart with hStart | hMore
    · rw [hStart] at hFewer hShort
      omega
    · omega

/-! ## Spellings -/

/-- A way to write an identifier: its digits in letters of any case and with hyphens anywhere,
maybe after a prefix, between braces and between blanks. -/
structure Spelling (identifier : Uuid) where
  before : List Char
  opening : List Char
  isPrefixed : Bool
  body : List Char
  closing : List Char
  after : List Char
  isBlank : ∀ c ∈ before ++ after, Text.isBlank c = true
  isBrace : ∀ c ∈ opening ++ closing, Uuid.isBrace c = true
  isDigit : ∀ c ∈ body, IsAnyCaseDigit c ∨ c = '-'
  digits : (body.filter (· != '-')).map Char.toLower = identifier.hexDigits

namespace Spelling

variable {identifier : Uuid}

/-- The spelling without its blanks. -/
def inner (spelling : Spelling identifier) : List Char :=
  spelling.opening ++ (if spelling.isPrefixed then "urn:uuid:".toList else []) ++
    (spelling.body ++ spelling.closing)

def text (spelling : Spelling identifier) : String :=
  String.ofList (spelling.before ++ spelling.inner ++ spelling.after)

/-- The identifier as it is written, in small letters and with the usual hyphens. -/
def usual (identifier : Uuid) : Spelling identifier where
  before := []
  opening := []
  isPrefixed := false
  body := identifier.toChars
  closing := []
  after := []
  isBlank := by simp
  isBrace := by simp
  isDigit c hMem := (mem_toChars hMem).imp_left .inl
  digits := by
    rw [filter_toChars, List.map_congr_left fun c hMem => ?_, List.map_id]
    have hAll : "0123456789abcdef".toList.all (fun c => c.toLower == c) = true := by decide
    simpa using List.all_eq_true.1 hAll c (isHexDigit_of_mem_hexDigits hMem)

theorem length_digits (spelling : Spelling identifier) :
    (spelling.body.filter (· != '-')).length = 32 := by
  rw [← length_hexDigits identifier, ← spelling.digits, List.length_map]

theorem body_ne_nil (spelling : Spelling identifier) : spelling.body ≠ [] := by
  intro hNil
  have hLength := spelling.length_digits
  rw [hNil] at hLength
  cases hLength

/-- The characters of the digits and of the hyphens between them are no others. -/
theorem facts_of_mem_body (spelling : Spelling identifier) {c : Char} (hMem : c ∈ spelling.body) :
    Text.isBlank c = false ∧ Uuid.isBrace c = false ∧ c ≠ 'u' := by
  rcases spelling.isDigit c hMem with hDigit | rfl
  · have hOnly := hDigit.isDigitOnly
    exact ⟨hOnly.notBlank.1, by simpa [Uuid.isBrace] using hOnly.notBrace, hOnly.notWord⟩
  · decide

theorem facts_of_isBrace {c : Char} (hBrace : Uuid.isBrace c = true) :
    Text.isBlank c = false ∧ c ≠ 'u' := by
  simp only [Uuid.isBrace, Bool.or_eq_true, beq_iff_eq] at hBrace
  rcases hBrace with rfl | rfl <;> decide

theorem trim_text (spelling : Spelling identifier) :
    Text.trim spelling.text = String.ofList spelling.inner := by
  have hKept : ∀ c ∈ spelling.inner, Text.isBlank c = false := by
    intro c hMem
    simp only [inner, List.mem_append] at hMem
    rcases hMem with (hOpening | hPrefix) | hBody | hClosing
    · exact (facts_of_isBrace (spelling.isBrace c (by simp [hOpening]))).1
    · split at hPrefix
      · have hAll : "urn:uuid:".toList.all (fun c => !Text.isBlank c) = true := by decide
        simpa using List.all_eq_true.1 hAll c hPrefix
      · cases hPrefix
    · exact (spelling.facts_of_mem_body hBody).1
    · exact (facts_of_isBrace (spelling.isBrace c (by simp [hClosing]))).1
  have hNonempty : spelling.inner ≠ [] := by
    intro hNil
    exact spelling.body_ne_nil (List.append_eq_nil_iff.1 (List.append_eq_nil_iff.1 hNil).2).1
  rw [Text.trim, text, String.toList_ofList, Text.trimBy_append hNonempty hKept
    (fun c hMem => spelling.isBlank c (by simp [hMem]))
    fun c hMem => spelling.isBlank c (by simp [hMem])]

/-- The prefix consists of two words that are taken away, one after the other. -/
theorem withoutWords_inner (spelling : Spelling identifier) :
    withoutWord "uuid:".toList (withoutWord "urn:".toList spelling.inner) =
      spelling.opening ++ (spelling.body ++ spelling.closing) := by
  have hOpening : 'u' ∉ spelling.opening := fun hMem =>
    (facts_of_isBrace (spelling.isBrace 'u' (by simp [hMem]))).2 rfl
  have hRest : 'u' ∉ spelling.body ++ spelling.closing := by
    intro hMem
    rcases List.mem_append.1 hMem with hBody | hClosing
    · exact (spelling.facts_of_mem_body hBody).2.2 rfl
    · exact (facts_of_isBrace (spelling.isBrace 'u' (by simp [hClosing]))).2 rfl
  unfold inner
  generalize spelling.body ++ spelling.closing = rest at hRest ⊢
  have hKept (word : List Char) (fuel : Nat) : removeWord ('u' :: word) fuel rest = rest :=
    removeWord_of_not_mem hRest fuel
  have hUrn : withoutWord "urn:".toList
      ((if spelling.isPrefixed then "urn:uuid:".toList else []) ++ rest) =
        (if spelling.isPrefixed then "uuid:".toList else []) ++ rest := by
    split
    · simp [withoutWord, removeWord, List.isPrefixOf, hKept]
    · exact hKept _ _
  have hUuid : withoutWord "uuid:".toList
      ((if spelling.isPrefixed then "uuid:".toList else []) ++ rest) = rest := by
    split
    · simp [withoutWord, removeWord, List.isPrefixOf, hKept]
    · exact hKept _ _
  have hSplit (word text : List Char) : withoutWord ('u' :: word) (spelling.opening ++ text) =
      spelling.opening ++ withoutWord ('u' :: word) text := withoutWord_append hOpening text
  rw [List.append_assoc]
  rw [show "urn:".toList = 'u' :: "rn:".toList from rfl, hSplit,
    show 'u' :: "rn:".toList = "urn:".toList from rfl, hUrn,
    show "uuid:".toList = 'u' :: "uid:".toList from rfl, hSplit]
  exact congrArg _ hUuid

theorem payload_inner (spelling : Spelling identifier) :
    payload spelling.inner = spelling.body.filter (· != '-') := by
  rw [payload_eq, withoutWords_inner, ← List.append_assoc, Text.trimBy_append spelling.body_ne_nil
    (fun c hMem => (spelling.facts_of_mem_body hMem).2.1)
    (fun c hMem => spelling.isBrace c (by simp [hMem]))
    fun c hMem => spelling.isBrace c (by simp [hMem])]

theorem read_trim (spelling : Spelling identifier) :
    read (Text.trim spelling.text) = .ok identifier := by
  have hLength := spelling.length_digits
  have hDigits : ∀ c ∈ spelling.body.filter (· != '-'), IsDigitOnly c := by
    intro c hMem
    obtain ⟨hBody, hHyphen⟩ := List.mem_filter.1 hMem
    rcases spelling.isDigit c hBody with hDigit | rfl
    · exact hDigit.isDigitOnly
    · cases hHyphen
  have hNonempty : spelling.body.filter (· != '-') ≠ [] :=
    List.ne_nil_of_length_pos (by omega)
  rw [trim_text, read, String.toList_ofList, payload_inner]
  simp only [hLength, ne_eq, not_true_eq_false, if_false,
    readInteger_sixteen hDigits hNonempty]
  rw [← hexValue_map_toLower hDigits, spelling.digits, hexDigits, hexValue_hexDigits,
    dif_pos ⟨Int.natCast_nonneg _, identifier.inRange⟩]
  rfl

end Spelling

end Uuid

end SqlDialects
