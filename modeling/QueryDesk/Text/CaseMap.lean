/-
**Lower case of every script.**

* `lower` — each capital becomes its small letter; a capital sigma at the end of a word becomes the
  final sigma; the dotted capital I becomes an i and a combining dot.
* `sameLetter` — equality of an ASCII letter and a character when case does not count: the Kelvin
  sign stands for k, the long s for s, the dotless and the dotted I for i.
-/

import QueryDesk.Text.CaseTable

namespace QueryDesk.Text

/-- The small letter of a capital in the run, if the capital is one of the run. -/
def LowerRun.small? (run : LowerRun) (code : Nat) : Option Nat :=
  if run.first ≤ code ∧ code ≤ run.last ∧ (code - run.first) % run.step = 0 then
    some ((code : Int) + run.shift).toNat
  else none

/-- The small letter of a character, the character itself when it is no capital. -/
def lowerChar (c : Char) : Char :=
  if c.toNat < 128 then c.toLower
  else match lowerRuns.findSome? (·.small? c.toNat) with
    | some code => Char.ofNat code
    | none => c

/-- Whether the nearest character that is not passed over carries case. -/
def nextCarriesCase (neighbours : List Char) : Bool :=
  match neighbours.find? fun c => !Edges.holds ignorableEdges c.toNat with
  | some c => Edges.holds casedEdges c.toNat
  | none => false

/-- The small letters of one character, given the text before it (nearest first) and after it. -/
def lowerInContext (before after : List Char) (c : Char) : List Char :=
  if c = '\u03a3' then
    if nextCarriesCase before && !nextCarriesCase after then ['\u03c2'] else ['\u03c3']
  else if c = '\u0130' then ['i', '\u0307']
  else [lowerChar c]

/-- Lower case of a text whose beginning, nearest character first, is already known. -/
def lowerAfter (before : List Char) : List Char → List Char
  | [] => []
  | c :: rest => lowerInContext before rest c ++ lowerAfter (c :: before) rest

/-- A text in lower case. -/
def lower (text : String) : String := String.ofList (lowerAfter [] text.toList)

/-- Whether a character is the given small ASCII letter when case does not count. -/
def sameLetter (letter c : Char) : Bool :=
  c.toLower == letter || (letter == 'k' && c == '\u212a') || (letter == 's' && c == '\u017f') ||
    (letter == 'i' && (c == '\u0131' || c == '\u0130'))

end QueryDesk.Text
