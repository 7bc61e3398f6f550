/-
**Words of text work that all modules share.**

* `strip` — a text without the blanks at its ends.
* `splitOnChar` — the parts between the occurrences of one character; there is always one part more
  than there are occurrences (`length_splitOnChar`).
* `startsWith`, `endsWith`, `contains` — the usual relations of texts, on lists of characters.
* `readDigits` — the number of digits, which gives back a number from its own
  (`readDigits_toDigits`).
-/

import QueryDesk.Text.CharClass

namespace QueryDesk.Text

/-- A list of characters without the blanks at its ends. -/
def stripChars (text : List Char) : List Char :=
  ((text.dropWhile isBlank).reverse.dropWhile isBlank).reverse

/-- A text without the blanks at its ends. -/
def strip (text : String) : String := String.ofList (stripChars text.toList)

/-- A text that is there and not empty. -/
def nonEmpty? (text : Option String) : Option String := text.filter fun content => !content.isEmpty

/-- The parts between the occurrences of a character. -/
def splitOnChar (separator : Char) : List Char → List (List Char)
  | [] => [[]]
  | c :: rest =>
    if c = separator then [] :: splitOnChar separator rest
    else match splitOnChar separator rest with
      | [] => [[c]]
      | part :: parts => (c :: part) :: parts

/-- A text has one part more than separators. -/
theorem length_splitOnChar (separator : Char) (text : List Char) :
    (splitOnChar separator text).length = text.count separator + 1 := by
  induction text with
  | nil => rfl
  | cons c rest ih =>
    by_cases same : c = separator
    · subst same
      simp [splitOnChar, ih]
    · cases parts : splitOnChar separator rest with
      | nil => simp [parts] at ih
      | cons part more => simp_all [splitOnChar]

/-- The text before the first occurrence of a character and the text after it, if there is one. -/
def cutAt (separator : Char) (text : List Char) : List Char × Option (List Char) :=
  match text.dropWhile (· != separator) with
  | [] => (text, none)
  | _ :: rest => (text.takeWhile (· != separator), some rest)

/-- Whether a text begins with another. -/
def startsWith (text start : String) : Bool := start.toList.isPrefixOf text.toList

/-- Whether a text ends with another. -/
def endsWith (text ending : String) : Bool := ending.toList.isSuffixOf text.toList

/-- Whether some part of the text is `part`. -/
def containsChars (part : List Char) : List Char → Bool
  | [] => part.isEmpty
  | c :: rest => part.isPrefixOf (c :: rest) || containsChars part rest

/-- A text of one character, repeated. -/
def repeated (c : Char) (times : Nat) : String := String.ofList (List.replicate times c)

/-- The decimal digits of a number, with zeros in front up to the given width. -/
def padded (width value : Nat) : String :=
  let digits := toString value
  repeated '0' (width - digits.length) ++ digits

/-- One digit of a hexadecimal number, small letters from ten on. -/
def hexDigit (value : Nat) : Char :=
  if value < 10 then Char.ofNat (48 + value) else Char.ofNat (87 + value)

/-- The value of a hexadecimal digit. -/
def hexValue? (c : Char) : Option Nat :=
  if '0' ≤ c ∧ c ≤ '9' then some (c.toNat - 48)
  else if 'a' ≤ c ∧ c ≤ 'f' then some (c.toNat - 87)
  else if 'A' ≤ c ∧ c ≤ 'F' then some (c.toNat - 55)
  else none

/-- The lowest `width` hexadecimal digits of a number. -/
def hex (width value : Nat) : String :=
  String.ofList
    ((List.range width).reverse.map fun place => hexDigit (value / Nat.pow 16 place % 16))

/-- Whether a character is an ASCII digit. -/
def isAsciiDigit (c : Char) : Bool := decide ('0' ≤ c) && decide (c ≤ '9')

/-- The value of an ASCII digit. -/
def asciiDigit (c : Char) : Nat := c.toNat - 48

/-- The number a list of ASCII digits stands for. -/
def readDigits (digits : List Char) : Nat :=
  digits.foldl (fun value c => 10 * value + asciiDigit c) 0

/-- A number is read back from its digits. -/
theorem readDigits_toDigits (number : Nat) : readDigits (Nat.toDigits 10 number) = number :=
  Nat.ofDigitChars_toDigits (by decide) (Nat.le_refl 10)

theorem toDigits_inj {first second : Nat} :
    Nat.toDigits 10 first = Nat.toDigits 10 second ↔ first = second :=
  ⟨fun same => by rw [← readDigits_toDigits first, same, readDigits_toDigits], congrArg _⟩

end QueryDesk.Text
