/-
**Scalars of JSON documents are read back.**

* `wholePart_toDigits`, `number?_toDigits` — the digits of a whole number are read as
  this number: they do not begin with a zero, and what stands behind them is no further
  part of a number (`EndsNumber`).
* `fourDigits?_hex` — four hexadecimal digits; `textBody_escapedChar` — an escaped character;
  `readText_quotedText` — by induction on the characters, a text in quotes. Two halves next to each
  other would be read as one character, so no half stands in the text.
* `scalar_atom` — nothing, truth values, whole numbers that have a text, and texts.
-/

import Mathlib.Tactic.IntervalCases
import QueryDesk.Json.Reader
import QueryDesk.Json.Writer
import QueryDesk.Proofs.Reading.Records
import QueryDesk.Proofs.Search
import QueryDesk.Proofs.Value.Whole

namespace QueryDesk.Json

open Text

/-! ### Whole numbers -/

/-- What may stand behind a number without being read as a part of it. -/
def EndsNumber (rest : List Char) : Prop :=
  ∀ c ∈ rest.head?, isAsciiDigit c = false ∧ c ≠ '.' ∧ c ≠ 'e' ∧ c ≠ 'E'

theorem isAsciiDigit_of_isDigit {c : Char} (digit : c.isDigit = true) : isAsciiDigit c = true := by
  simpa [isAsciiDigit, Char.isDigit, Char.le_def] using digit

theorem isAsciiDigit_of_mem_toDigits {number : Nat} {c : Char}
    (inside : c ∈ Nat.toDigits 10 number) :
    isAsciiDigit c = true :=
  isAsciiDigit_of_isDigit (Nat.isDigit_of_mem_toDigits (by decide) (Nat.le_refl 10) inside)

/-- A number begins with a digit. -/
theorem toDigits_eq_cons (number : Nat) :
    ∃ c more, Nat.toDigits 10 number = c :: more ∧ isAsciiDigit c = true := by
  have some_digit : Nat.toDigits 10 number ≠ [] := Nat.toDigits_ne_nil
  obtain ⟨c, more, parts⟩ := List.exists_cons_of_ne_nil some_digit
  have inside : c ∈ Nat.toDigits 10 number := by simp [parts]
  exact ⟨c, more, parts, isAsciiDigit_of_mem_toDigits inside⟩

/-- The digits of a number other than zero do not begin with a zero. -/
theorem head?_toDigits {number : Nat} (positive : 0 < number) :
    (Nat.toDigits 10 number).head? ≠ some '0' := by
  induction number using Nat.strongRecOn with
  | ind number ih =>
    rw [Nat.toDigits_eq_if (by decide)]
    split
    · rename_i small
      interval_cases number <;> decide
    · rename_i large
      rw [List.head?_append, Option.or_of_isSome]
      · exact ih (number / 10) (by omega) (by omega)
      · simp [Nat.toDigits_ne_nil]

theorem EndsNumber.not_isAsciiDigit {rest : List Char} (ends : EndsNumber rest) :
    ∀ c ∈ rest.head?, isAsciiDigit c = false := fun c first => (ends c first).1

/-- The digits of a number are its whole part. -/
theorem wholePart_toDigits (number : Nat) {rest : List Char} (ends : EndsNumber rest) :
    wholePart (Nat.toDigits 10 number ++ rest) = (Nat.toDigits 10 number, rest) := by
  rcases Nat.eq_zero_or_pos number with rfl | positive
  · rfl
  · have digits : ∀ c ∈ Nat.toDigits 10 number, isAsciiDigit c = true :=
      fun _ inside => isAsciiDigit_of_mem_toDigits inside
    have other := head?_toDigits positive
    unfold wholePart
    split
    · rename_i spelled
      obtain ⟨c, more, parts, -⟩ := toDigits_eq_cons number
      rw [parts] at spelled other
      exact absurd (congrArg some (List.cons.inj spelled).1) other
    · rw [takeWhile_append_of_stop digits ends.not_isAsciiDigit,
        dropWhile_append_of_stop digits ends.not_isAsciiDigit]

theorem fractionPart_of_ends {rest : List Char} (ends : EndsNumber rest) :
    fractionPart rest = ([], rest) := by
  unfold fractionPart
  split
  · exact absurd rfl (ends _ rfl).2.1
  · rfl

theorem powerPart_of_ends {rest : List Char} (ends : EndsNumber rest) :
    powerPart rest = (none, rest) := by
  unfold powerPart
  split
  · rename_i c more
    rw [if_neg]
    rintro (rfl | rfl)
    · exact (ends _ rfl).2.2.1 rfl
    · exact (ends _ rfl).2.2.2 rfl
  · rfl

/-- The digits of a number, behind a minus or not, are read as this number. -/
theorem number?_toDigits {number : Nat} {rest : List Char} (ends : EndsNumber rest)
    (short : (Nat.toDigits 10 number).length ≤ Numeral.maxDigits) :
    number? (Nat.toDigits 10 number ++ rest) = some (.ok (.int number, rest)) ∧
      number? ('-' :: (Nat.toDigits 10 number ++ rest)) = some (.ok (.int (-number), rest)) := by
  have whole := wholePart_toDigits number ends
  have some_digit : (Nat.toDigits 10 number).isEmpty = false := by simp [Nat.toDigits_ne_nil]
  constructor
  · have no_minus : ∀ more, Nat.toDigits 10 number ++ rest ≠ '-' :: more := by
      intro more spelled
      obtain ⟨c, others, parts, digit⟩ := toDigits_eq_cons number
      rw [parts] at spelled
      obtain ⟨rfl, -⟩ := List.cons.inj spelled
      cases digit
    unfold number?
    split
    rename_i negative body split_off
    split at split_off
    · rename_i more spelled
      exact absurd spelled (no_minus more)
    · obtain ⟨rfl, rfl⟩ := Prod.mk.inj split_off
      simp [whole, some_digit, fractionPart_of_ends ends, powerPart_of_ends ends,
        readDigits_toDigits, Nat.not_lt.2 short, Numeral.signed]
  · simp only [number?, whole, some_digit, fractionPart_of_ends ends, powerPart_of_ends ends,
      readDigits_toDigits, if_neg (Nat.not_lt.2 short), Numeral.signed]
    rfl

/-! ### Texts -/

/-- A hexadecimal digit is read back. -/
theorem hexValue?_hexDigit {value : Nat} (small : value < 16) :
    hexValue? (hexDigit value) = some value := by
  interval_cases value <;> rfl

theorem toList_hex_four (code : Nat) : (hex 4 code).toList =
    [hexDigit (code / 4096 % 16), hexDigit (code / 256 % 16), hexDigit (code / 16 % 16),
      hexDigit (code % 16)] := by
  rw [hex, String.toList_ofList]
  simp [List.range_succ]

/-- Four hexadecimal digits are read as the number they are written for. -/
theorem fourDigits?_hex {code : Nat} (small : code < 0x10000) :
    fourDigits? (hex 4 code).toList = some code := by
  have digit (value : Nat) := hexValue?_hexDigit (Nat.mod_lt value (show 0 < 16 by decide))
  rw [toList_hex_four, fourDigits?]
  simp only [digit, Option.bind_eq_bind, Option.bind_some, Option.some.injEq]
  omega

theorem length_hex_four (code : Nat) : (hex 4 code).toList.length = 4 := by
  rw [toList_hex_four]
  rfl

/-- No character is half a character. -/
theorem not_half (c : Char) : isHighHalf c.toNat = false ∧ isLowHalf c.toNat = false := by
  have valid : c.toNat < 0xd800 ∨ 0xdfff < c.toNat ∧ c.toNat < 0x110000 := c.valid
  simp only [isHighHalf, isLowHalf, Bool.and_eq_false_iff, decide_eq_false_iff_not]
  omega

/-- A character is the one of its own code. -/
theorem charOf_toNat (c : Char) : charOf c.toNat = c := by
  obtain ⟨high, low⟩ := not_half c
  rw [charOf, high, low]
  exact Char.ofNat_toNat c

theorem lt_of_isHighHalf {high : Nat} (half : isHighHalf high = true) : high < 0x10000 := by
  simp only [isHighHalf, Bool.and_eq_true, decide_eq_true_eq] at half
  omega

theorem lt_of_isLowHalf {low : Nat} (half : isLowHalf low = true) : low < 0x10000 := by
  simp only [isLowHalf, Bool.and_eq_true, decide_eq_true_eq] at half
  omega

/-- A character beyond the first plane is escaped by its two halves. -/
theorem exists_halves {c : Char} (large : ¬ c.toNat < 0x10000) :
    ∃ high low, unicodeEscapes c.toNat = "\\u" ++ hex 4 high ++ "\\u" ++ hex 4 low ∧
      isHighHalf high = true ∧ isLowHalf low = true ∧ joinHalves high low = c := by
  have valid : c.toNat < 0xd800 ∨ 0xdfff < c.toNat ∧ c.toNat < 0x110000 := c.valid
  refine ⟨_, _, if_neg large, ?_, ?_, ?_⟩
  · simp only [isHighHalf, Bool.and_eq_true, decide_eq_true_eq]
    omega
  · simp only [isLowHalf, Bool.and_eq_true, decide_eq_true_eq]
    omega
  · have whole : 0x10000 + (0xd800 + (c.toNat - 0x10000) / 0x400 - 0xd800) * 0x400 +
        (0xdc00 + (c.toNat - 0x10000) % 0x400 - 0xdc00) = c.toNat := by omega
    rw [joinHalves, whole]
    exact Char.ofNat_toNat c

section Escapes

variable {c : Char} {rest : List Char} (more : rest ≠ [])

include more

/-- The escape of a character of sixteen bits is read back. -/
theorem unicodeEscape_small (small : c.toNat < 0x10000) :
    unicodeEscape ((hex 4 c.toNat).toList ++ rest) = .ok (c, 4) := by
  have digits : ((hex 4 c.toNat).toList ++ rest).take 4 = (hex 4 c.toNat).toList :=
    List.take_left' (length_hex_four c.toNat)
  have behind : ((hex 4 c.toNat).toList ++ rest).drop 4 = rest :=
    List.drop_left' (length_hex_four c.toNat)
  simp [unicodeEscape, digits, behind, fourDigits?_hex small, more, (not_half c).1, charOf_toNat]

/-- The two escapes of a large character are read together. -/
theorem unicodeEscape_halves {high low : Nat} (first : isHighHalf high = true)
    (second : isLowHalf low = true) :
    unicodeEscape ((hex 4 high).toList ++ '\\' :: 'u' :: ((hex 4 low).toList ++ rest)) =
      .ok (joinHalves high low, 10) := by
  have positive : 0 < rest.length := List.length_pos_iff.2 more
  have room : 6 < ('\\' :: 'u' :: ((hex 4 low).toList ++ rest)).length := by
    simp only [List.length_cons, List.length_append, length_hex_four]
    omega
  have both :
    (isHighHalf high && ['\\', 'u'].isPrefixOf ('\\' :: 'u' :: ((hex 4 low).toList ++ rest)) &&
      decide (6 < ('\\' :: 'u' :: ((hex 4 low).toList ++ rest)).length)) = true := by
    rw [first, decide_eq_true room]
    simp [List.isPrefixOf]
  have behind : (('\\' :: 'u' :: ((hex 4 low).toList ++ rest)).drop 2).take 4 =
    (hex 4 low).toList :=
    List.take_left' (length_hex_four low)
  unfold unicodeEscape
  rw [List.take_left' (length_hex_four high), List.drop_left' (length_hex_four high),
    fourDigits?_hex (lt_of_isHighHalf first)]
  dsimp only
  rw [if_neg (by simp), if_pos both, behind, fourDigits?_hex (lt_of_isLowHalf second)]
  dsimp only
  rw [if_pos second]

/-- The escapes of a character are read as this character when something stands behind them. -/
theorem textBody_unicodeEscapes (opened : Nat) (reversed : List Char) :
    textBody opened reversed ((unicodeEscapes c.toNat).toList ++ rest) =
      textBody opened (c :: reversed) rest := by
  by_cases small : c.toNat < 0x10000
  · rw [unicodeEscapes, if_pos small, String.toList_append]
    show textBody opened reversed ('\\' :: 'u' :: ((hex 4 c.toNat).toList ++ rest)) = _
    rw [textBody, unicodeEscape_small more small]
    exact congrArg _ (List.drop_left' (length_hex_four c.toNat))
  · obtain ⟨high, low, escapes, first, second, joined⟩ := exists_halves small
    have spelled : ("\\u" ++ hex 4 high ++ "\\u" ++ hex 4 low).toList ++ rest =
        '\\' :: 'u' :: ((hex 4 high).toList ++ '\\' :: 'u' :: ((hex 4 low).toList ++ rest)) := by
      simp only [String.toList_append, List.append_assoc]
      rfl
    have front : ((hex 4 high).toList ++ '\\' :: 'u' :: (hex 4 low).toList).length = 10 := by
      simp [length_hex_four]
    rw [escapes, spelled, textBody, unicodeEscape_halves more first second, joined]
    refine congrArg (textBody opened (c :: reversed)) ?_
    rw [← List.cons_append, ← List.cons_append, ← List.append_assoc]
    exact List.drop_left' front

/-- A character inside quotes is read as itself when something stands behind it. -/
theorem textBody_escapedChar (plain : isHalf c = false) (opened : Nat) (reversed : List Char)
    (asciiOnly : Bool) :
    textBody opened reversed ((escapedChar asciiOnly c).toList ++ rest) =
      textBody opened (c :: reversed) rest := by
  have special (letter meant : Char) (known : escaped? letter = some meant) (other : letter ≠ 'u') :
      textBody opened reversed ('\\' :: letter :: rest) =
        textBody opened (meant :: reversed) rest := by
    rw [textBody.eq_5 _ _ _ _ other, known]
  unfold escapedChar
  split
  · exact special '"' '"' rfl (by decide)
  · exact special '\\' '\\' rfl (by decide)
  · exact special 'n' '\n' rfl (by decide)
  · exact special 'r' '\r' rfl (by decide)
  · exact special 't' '\t' rfl (by decide)
  · exact special 'f' '\x0c' rfl (by decide)
  · exact special 'b' '\x08' rfl (by decide)
  · rename_i quote backslash _ _ _ _ _
    split
    · rw [codePoint_of_not_isHalf plain]
      exact textBody_unicodeEscapes more opened reversed
    · rename_i visible
      have printed : ¬ c.toNat < 0x20 := fun control => visible (by simp [control])
      rw [String.toList_singleton, List.singleton_append, textBody.eq_6, if_neg printed]
      · exact quote
      · exact fun same _ => backslash same
      · exact fun _ same _ => backslash same
      · exact fun _ _ same _ => backslash same

end Escapes

/-- The characters of a text up to its closing quote, by induction on them. -/
theorem textBody_escaped (opened : Nat) (asciiOnly : Bool) (rest : List Char) {text : List Char}
    (whole : ∀ c ∈ text, isHalf c = false) :
    ∀ reversed, textBody opened reversed
        (text.flatMap (fun c => (escapedChar asciiOnly c).toList) ++ '"' :: rest) =
      .ok (String.ofList (reversed.reverse ++ text), rest) := by
  induction text with
  | nil =>
    intro reversed
    rw [List.flatMap_nil, List.nil_append, textBody, List.append_nil]
  | cons c text ih =>
    obtain ⟨here, others⟩ := List.forall_mem_cons.1 whole
    intro reversed
    rw [List.flatMap_cons, List.append_assoc, textBody_escapedChar (by simp) here, ih others,
      List.reverse_cons, List.append_assoc, List.singleton_append]

theorem toList_quotedText (asciiOnly : Bool) (text : String) : (quotedText asciiOnly text).toList =
    '"' :: (text.toList.flatMap (fun c => (escapedChar asciiOnly c).toList) ++ ['"']) := by
  simp [quotedText, String.toList_append, String.toList_join, List.flatMap_map]

/-- A text in quotes is read back. -/
theorem readText_quotedText (asciiOnly : Bool) {text : String} (whole : isWhole text = true)
    (rest : List Char) : readText ((quotedText asciiOnly text).toList ++ rest) =
      .ok (text, rest) := by
  have each : ∀ c ∈ text.toList, isHalf c = false := by simpa [isWhole] using whole
  rw [toList_quotedText, List.cons_append, readText, List.append_assoc, List.singleton_append,
    textBody_escaped _ _ _ each]
  simp

/-! ### Scalars -/

/-- A text that no word fits is no literal. -/
theorem literal?_eq_none {text : List Char}
    (none_fits : ∀ entry ∈ words, entry.1.toList.isPrefixOf text = false) :
    literal? text = none := by
  rw [literal?, List.findSome?_eq_none_iff]
  rintro ⟨word, value⟩ inside
  exact if_neg (Bool.not_eq_true _ ▸ none_fits (word, value) inside)

/-- No word begins with a digit, also behind a minus. -/
theorem literal?_of_digit {c : Char} (digit : isAsciiDigit c = true) (rest : List Char) :
    literal? (c :: rest) = none ∧ literal? ('-' :: c :: rest) = none := by
  have other (letter : Char) (no_digit : isAsciiDigit letter = false) : letter ≠ c := by
    rintro rfl
    rw [digit] at no_digit
    cases no_digit
  constructor
  · refine literal?_eq_none ?_
    simp [words, List.isPrefixOf, other 'n' rfl, other 't' rfl, other 'f' rfl, other 'N' rfl,
      other 'I' rfl, other '-' rfl]
  · refine literal?_eq_none ?_
    simp [words, List.isPrefixOf, other 'I' rfl]

/-- What is neither a word nor a text is read as a number. -/
theorem scalar_eq_number? {text : List Char} {found : Value × List Char}
    (no_word : literal? text = none)
    (no_quote : text.head? ≠ some '"') (number : number? text = some (.ok found)) :
    scalar text = .ok found := by
  unfold scalar
  split
  · exact absurd rfl no_quote
  · rw [no_word, number]
    rfl

theorem toList_toString_ofNat (size : Nat) :
    (toString (Int.ofNat size)).toList = Nat.toDigits 10 size := Nat.toList_repr

theorem toList_toString_negSucc (size : Nat) :
    (toString (Int.negSucc size)).toList = '-' :: Nat.toDigits 10 (size + 1) := by
  rw [← Nat.toList_repr]
  show ("-" ++ Nat.repr (size + 1)).toList = _
  rw [String.toList_append]
  rfl

/-- A whole number that has a text is read back from it. -/
theorem scalar_int {number : Int} (writable : Numeral.isWritable number = true) {rest : List Char}
    (ends : EndsNumber rest) :
    scalar ((toString number).toList ++ rest) = .ok (.int number, rest) := by
  have short (size : Nat) (same : number.natAbs = size) :
      (Nat.toDigits 10 size).length ≤ Numeral.maxDigits := by
    rw [Numeral.isWritable, decide_eq_true_eq, same] at writable
    rwa [← Nat.toList_repr, String.length_toList]
  cases number with
  | ofNat size =>
    obtain ⟨c, more, parts, digit⟩ := toDigits_eq_cons size
    have read := (number?_toDigits ends (short size rfl)).1
    rw [toList_toString_ofNat]
    refine scalar_eq_number? ?_ ?_ read
    · rw [parts]
      exact (literal?_of_digit digit _).1
    · rw [parts]
      rintro ⟨⟩
      cases digit
  | negSucc size =>
    obtain ⟨c, more, parts, digit⟩ := toDigits_eq_cons (size + 1)
    have read := (number?_toDigits ends (short (size + 1) rfl)).2
    rw [toList_toString_negSucc, List.cons_append]
    refine scalar_eq_number? ?_ (by simp) read
    rw [parts]
    exact (literal?_of_digit digit _).2

/-- A text without halves is read back. -/
theorem scalar_text (asciiOnly : Bool) {text : String} (whole : isWhole text = true)
    (rest : List Char) :
    scalar ((quotedText asciiOnly text).toList ++ rest) = .ok (.text text, rest) := by
  have read := readText_quotedText asciiOnly whole rest
  rw [toList_quotedText, List.cons_append] at read ⊢
  rw [scalar, read]
  rfl

/-- A scalar that JSON has is read back from what it is written as. -/
theorem scalar_atom (layout : Layout) {value : Value} (plain : value.IsPlainScalar)
    (whole : value.IsWhole) {rest : List Char} (ends : EndsNumber rest) :
    scalar ((atom layout value).toList ++ rest) = .ok (value, rest) := by
  cases plain with
  | null =>
    show scalar ("null".toList ++ rest) = _
    rfl
  | bool truth =>
    cases truth with
    | false =>
      show scalar ("false".toList ++ rest) = _
      rfl
    | true =>
      show scalar ("true".toList ++ rest) = _
      rfl
  | int number writable => exact scalar_int writable ends
  | text content => exact scalar_text layout.asciiOnly (whole content (by simp [Value.texts])) rest

end QueryDesk.Json
