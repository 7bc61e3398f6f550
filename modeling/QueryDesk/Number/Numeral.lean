/-
**Numbers written by people.**

* `Numeral.int?` — a whole number: blanks around it, one sign, digits of any script, and single
  underscores between digits. Texts of more than 4300 digits are not read.
* `Numeral.isWritable` — the same bound for whole numbers that are written.
* `Numeral.double?` — a decimal number in the same spellings with a point and a power of ten, or a
  word for infinity or not-a-number.
-/

import QueryDesk.Number.Binary64
import QueryDesk.Text.Basic

namespace QueryDesk.Numeral

open Text

/-- The largest number of digits a whole number is read from or written with. -/
def maxDigits : Nat := 4300

/-- Whether a whole number has few enough digits to be written. -/
def isWritable (number : Int) : Bool := decide ((toString number.natAbs).length ≤ maxDigits)

/-- Digits of any script as ASCII digits and blanks as spaces; the rest stays as it is. -/
def plainChar (c : Char) : Char :=
  match digitValue? c with
  | some value => Char.ofNat (48 + value)
  | none => if isBlank c then ' ' else c

/-- Leaves out the underscores, each of which has to stand between two digits. -/
def joinGroups? (before : Option Char) : List Char → Option (List Char)
  | [] => some []
  | '_' :: rest =>
    if (before.any isAsciiDigit) && (rest.head?.any isAsciiDigit) then
      joinGroups? (some '_') rest
    else none
  | c :: rest => (joinGroups? (some c) rest).map (c :: ·)

/-- The characters of a number: blanks at the ends and underscores are gone. -/
def chars? (text : String) : Option (List Char) :=
  joinGroups? none (stripChars (text.toList.map plainChar))

/-- Splits off a sign; `true` stands for a minus. -/
def splitSign : List Char → Bool × List Char
  | '-' :: rest => (true, rest)
  | '+' :: rest => (false, rest)
  | text => (false, text)

/-- Gives a natural number its sign. -/
def signed (negative : Bool) (value : Nat) : Int := if negative then -(value : Int) else value

/-- The whole number a text spells. -/
def int? (text : String) : Option Int := do
  let (negative, digits) := splitSign (← chars? text)
  if digits.isEmpty || !digits.all isAsciiDigit || maxDigits < digits.length then none
  else some (signed negative (readDigits digits))

/-- A decimal number before it is rounded: sign, all digits as a whole number, and the power of ten
they are scaled by. -/
structure Scientific where
  negative : Bool
  digits : Nat
  exponent : Int
deriving DecidableEq, Repr

/-- The power of ten after the letter e: the whole rest must be a number. -/
def exponent? : List Char → Option Int
  | [] => some 0
  | c :: rest =>
    if c = 'e' ∨ c = 'E' then
      let (negative, digits) := splitSign rest
      if digits.isEmpty || !digits.all isAsciiDigit then none
      else some (signed negative (readDigits digits))
    else none

/-- Digits with an optional point and an optional power of ten. -/
def scientific? (text : List Char) : Option Scientific := do
  let (negative, body) := splitSign text
  let whole := body.takeWhile isAsciiDigit
  let afterWhole := body.dropWhile isAsciiDigit
  let (fraction, afterFraction) := match afterWhole with
    | '.' :: rest => (rest.takeWhile isAsciiDigit, rest.dropWhile isAsciiDigit)
    | rest => ([], rest)
  if whole.isEmpty && fraction.isEmpty then none
  else
    let power ← exponent? afterFraction
    some ⟨negative, readDigits (whole ++ fraction), power - fraction.length⟩

/-- The nearest double of a decimal number. -/
def Scientific.toDouble (number : Scientific) : Binary64 :=
  Binary64.ofScientific number.negative number.digits number.exponent

/-- The double a text spells. -/
def double? (text : String) : Option Binary64 := do
  let characters ← chars? text
  match scientific? characters with
  | some number => some number.toDouble
  | none =>
    let (negative, word) := splitSign characters
    match String.ofList (word.map Char.toLower) with
    | "inf" | "infinity" => some (.infinite negative)
    | "nan" => some .nan
    | _ => none

end QueryDesk.Numeral
