/-
**Halves of characters.**

A character beyond the first plane can be given as two halves, with numbers from 0xD800 to 0xDFFF. A
half can also stand in a text alone; then no encoding has a form for the text. The last 2048 private
characters stand for the halves here.

* `half`, `isHalf` — the character that stands for a half, and whether a character does.
* `codePoint` — the number of a character; that of a half is its own.
* `isWhole` — whether no half stands in a text.
-/

namespace QueryDesk.Text

/-- The number of the first half. -/
def firstHalf : Nat := 0xd800

/-- The number of the character that stands for the first half. -/
def firstStandIn : Nat := 0x10f800

/-- The character that stands for a half. -/
def half (code : Nat) : Char := Char.ofNat (firstStandIn + (code - firstHalf))

/-- Whether a character stands for a half. -/
def isHalf (c : Char) : Bool := decide (firstStandIn ≤ c.toNat)

/-- The number of a character. -/
def codePoint (c : Char) : Nat := if isHalf c then firstHalf + (c.toNat - firstStandIn) else c.toNat

/-- The numbers of the characters of a text. -/
def codePoints (text : String) : List Nat := text.toList.map codePoint

/-- Whether no half stands in a text. -/
def isWhole (text : String) : Bool := text.toList.all fun c => !isHalf c

/-- A character that stands for no half has its own code. -/
theorem codePoint_of_not_isHalf {c : Char} (plain : isHalf c = false) : codePoint c = c.toNat := by
  rw [codePoint, plain, if_neg Bool.false_ne_true]

example : codePoint (half 0xdfff) = 0xdfff ∧ isHalf (half 0xd800) = true := by decide

end QueryDesk.Text
