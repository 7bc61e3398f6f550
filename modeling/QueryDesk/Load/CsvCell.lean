/-
**Numbers and truth values in cells.**

* `Csv.missingSpellings` — cells that stand for nothing.
* `Csv.signed?`, `Csv.unsigned?` — whole numbers of 64 bits, with blanks around them.
* `Csv.quickDouble?` — a decimal number as the double that is reached by few roundings: the first 17
  digits are put together one after the other, and a power of ten is applied at the end. The result
  may differ from the nearest double in its last place.
-/

import QueryDesk.Number.Binary64
import QueryDesk.Text.Basic

namespace QueryDesk.Csv

open Text (isAsciiDigit asciiDigit)

/-- Cells that stand for nothing. -/
def missingSpellings : List String := [
  "", "#N/A", "#N/A N/A", "#NA", "-1.#IND", "-1.#QNAN", "-NaN", "-nan", "1.#IND", "1.#QNAN", "<NA>",
  "N/A", "NA", "NULL", "NaN", "None", "n/a", "nan", "null"]

/-- The blanks that may stand around a number. -/
def isNumberBlank (c : Char) : Bool := c = ' ' || (9 ≤ c.toNat && c.toNat ≤ 13)

/-- The text behind any blanks. -/
def skipBlanks (text : List Char) : List Char := text.dropWhile isNumberBlank

/-! ### Whole numbers -/

/-- Why a cell is no whole number. -/
inductive WholeFault where
  /-- Its digits make up a number out of reach. -/
  | outOfReach
  /-- Its text is none of a number. -/
  | malformed
deriving DecidableEq, Repr

/-- Digits in front of a text that may only be blank, as a number of at most a given size. The size
is looked at before the rest of the text is. -/
def digitsUpTo (largest : Nat) (text : List Char) : Except WholeFault Nat :=
  let digits := text.takeWhile isAsciiDigit
  let number := Text.readDigits digits
  if digits.isEmpty then .error .malformed
  else if largest < number then .error .outOfReach
  else if (skipBlanks (text.dropWhile isAsciiDigit)).isEmpty then .ok number
  else .error .malformed

/-- A whole number with a sign. -/
def signed? (cell : String) : Except WholeFault Int :=
  match skipBlanks cell.toList with
  | '-' :: rest => (digitsUpTo (Nat.pow 2 63) rest).map fun number => -(number : Int)
  | '+' :: rest => (digitsUpTo (Nat.pow 2 63 - 1) rest).map Int.ofNat
  | rest => (digitsUpTo (Nat.pow 2 63 - 1) rest).map Int.ofNat

/-- A whole number without a sign, or `none` for a cell with a minus, whatever follows that. -/
def unsigned? (cell : String) : Except WholeFault (Option Nat) :=
  match skipBlanks cell.toList with
  | '-' :: _ => .ok none
  | '+' :: rest => (digitsUpTo (Nat.pow 2 64 - 1) rest).map some
  | rest => (digitsUpTo (Nat.pow 2 64 - 1) rest).map some

/-! ### Doubles -/

/-- How many digits of a decimal number count. -/
def countedDigits : Nat := 17

/-- The double nearest to a rational number that is not negative. -/
def nearest (value : Rat) : Binary64 := .ofRat value

/-- The exact value of a double that is finite. -/
def exact (value : Binary64) : Rat := value.toRat?.getD 0

/-- A double with one more digit behind it: ten times the double, rounded, and the
digit added to that, rounded. -/
def appendDigit (value : Binary64) (digit : Char) : Binary64 :=
  nearest (exact (nearest (exact value * 10)) + asciiDigit digit)

/-- A power of ten as a double. -/
def powerOfTen (exponent : Nat) : Binary64 := .ofInt (Nat.pow 10 exponent)

/-- A double times a power of ten. -/
def scaleUp (value : Binary64) (exponent : Nat) : Binary64 :=
  nearest (exact value * exact (powerOfTen exponent))

/-- A double divided by a power of ten. -/
def scaleDown (value : Binary64) (exponent : Nat) : Binary64 :=
  nearest (exact value / exact (powerOfTen exponent))

/-- The double of some digits with a power of ten, or `none` when it is out of reach. -/
def assemble? (digits : List Char) (exponent : Int) : Option Binary64 :=
  let number := digits.foldl appendDigit (.signedZero false)
  let scaled :=
    if 308 < exponent then
      if exact number = 0 then number else .infinite false
    else if 0 < exponent then scaleUp number exponent.toNat
    else if exponent < -616 then .signedZero false
    else if exponent < -308 then scaleDown (scaleDown number (-308 - exponent).toNat) 308
    else scaleDown number (-exponent).toNat
  if scaled.isFinite then some scaled else none

/-- The sign of a text, whether it is a minus, and what follows. -/
def splitSign : List Char → Bool × List Char
  | '-' :: rest => (true, rest)
  | '+' :: rest => (false, rest)
  | text => (false, text)

/-- The exponent at the start of a text, and what follows. Without digits there is none. -/
def exponentPart (text : List Char) : Int × List Char :=
  match text with
  | e :: rest =>
    if e = 'e' || e = 'E' then
      let (negative, rest) := splitSign rest
      let digits := (rest.takeWhile isAsciiDigit).take countedDigits
      if digits.isEmpty then (0, text)
      else
        let size : Int := Text.readDigits digits
        (if negative then -size else size, rest.drop digits.length)
    else (0, text)
  | [] => (0, [])

/-- A decimal number, and whether it is written as a whole number. -/
def quickDouble? (cell : String) : Option (Binary64 × Bool) := do
  let (negative, text) := splitSign (skipBlanks cell.toList)
  let whole := text.takeWhile isAsciiDigit
  let afterWhole := text.dropWhile isAsciiDigit
  let (hasPoint, fraction, afterFraction) := match afterWhole with
    | '.' :: rest => (true, rest.takeWhile isAsciiDigit, rest.dropWhile isAsciiDigit)
    | _ => (false, [], afterWhole)
  let counted := whole.take countedDigits
  let countedFraction := fraction.take (countedDigits - counted.length)
  let digits := counted ++ countedFraction
  if digits.isEmpty then none
  else
    let (exponent, rest) := exponentPart afterFraction
    let shift : Int :=
      (whole.length - counted.length : Nat) - (countedFraction.length : Int) + exponent
    let magnitude ← assemble? digits shift
    if (skipBlanks rest).isEmpty then
      some (if negative then magnitude.neg else magnitude, !hasPoint && afterFraction == rest)
    else none

/-- Spellings of infinity, in small letters. -/
def infinitySpellings : List (String × Bool) := [
  ("inf", false), ("+inf", false), ("infinity", false), ("+infinity", false), ("-inf", true),
  ("-infinity", true)]

/-- A decimal number or an infinity. -/
def double? (cell : String) : Option Binary64 :=
  match quickDouble? cell with
  | some (number, _) => some number
  | none => (infinitySpellings.lookup cell.toLower).map .infinite

/-! ### Truth values -/

/-- A truth value in letters of any case. -/
def truth? (cell : String) : Option Bool :=
  match cell.toLower with
  | "true" => some true
  | "false" => some false
  | _ => none

/-- A truth value in one of the spellings of a column that is known to hold truth values. -/
def declaredTruth? (cell : String) : Option Bool :=
  if ["True", "TRUE", "true", "1", "1.0"].contains cell then some true
  else if ["False", "FALSE", "false", "0", "0.0"].contains cell then some false
  else none

end QueryDesk.Csv
