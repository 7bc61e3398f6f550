/-
**Classes of characters.**

* `isWord` — letters, digits and numerals of every script, and the underscore.
* `isBlank` — white space of every script, the separators of files, groups, records and units
  included.
* `digitValue?` — the value of a decimal digit of any script.
* `isPrintable` — what a quoted text shows as itself.
-/

import QueryDesk.Text.WordTable
import QueryDesk.Text.PrintableTable

namespace QueryDesk.Text

/-- Letters, digits and numerals of every script, and the underscore. -/
def isWord (c : Char) : Bool := Edges.holds wordEdges c.toNat

/-- The edges of the set of blanks. -/
def blankEdges : List Nat :=
  [9, 14, 28, 33, 133, 134, 160, 161, 5760, 5761, 8192, 8203, 8232, 8234, 8239, 8240, 8287, 8288,
    12288, 12289]

/-- White space of every script, the four information separators included. -/
def isBlank (c : Char) : Bool := Edges.holds blankEdges c.toNat

/-- The zeros of the scripts that write decimal numbers; the other nine digits follow each. -/
def digitZeros : List Nat := [
  48, 1632, 1776, 1984, 2406, 2534, 2662, 2790, 2918, 3046, 3174, 3302, 3430, 3558, 3664, 3792,
  3872, 4160, 4240, 6112, 6160, 6470, 6608, 6784, 6800, 6992, 7088, 7232, 7248, 42528, 43216,
  43264, 43472, 43504, 43600, 44016, 65296, 66720, 68912, 69734, 69872, 69942, 70096, 70384,
  70736, 70864, 71248, 71360, 71472, 71904, 72016, 72784, 73040, 73120, 92768, 92864, 93008,
  120782, 120792, 120802, 120812, 120822, 123200, 123632, 125264, 130032]

/-- The value of a decimal digit of any script. -/
def digitValue? (c : Char) : Option Nat :=
  (digitZeros.find? fun start => decide (start ≤ c.toNat) && decide (c.toNat < start + 10)).map
    fun start => c.toNat - start

/-- Whether a character is a decimal digit of some script. -/
def isDecimalDigit (c : Char) : Bool := (digitValue? c).isSome

/-- Whether a quoted text shows the character as itself. -/
def isPrintable (c : Char) : Bool := Edges.holds printableEdges c.toNat

/-- An ASCII letter. -/
def isLetter (c : Char) : Bool := c.isAlpha

example : isWord 'a' = true ∧ isWord '_' = true ∧ isWord '$' = false := by decide
example : isBlank ' ' = true ∧ isBlank '\x1c' = true ∧ isBlank 'x' = false := by decide
example : digitValue? '7' = some 7 := by decide

end QueryDesk.Text
