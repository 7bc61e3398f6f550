/-
**A place in a YAML text.**

* `Cursor` — the rest of the text, with the line and the column.
* `Scan` — reading from a cursor; it fails where the text is no YAML.
* `Scan.lineBreak`, `Scan.run`, `Scan.accept?` — what the scanners of the other modules are made of.

Line ends are line feeds here; texts are brought to that form before.
-/

import QueryDesk.Failure

namespace QueryDesk.Yaml

/-! ### Characters -/

/-- Whether a character ends a line. -/
def isBreak (c : Char) : Bool :=
  c = '\n' || c.toNat = 0x85 || c.toNat = 0x2028 || c.toNat = 0x2029

/-- Whether a character is a blank or ends a line. -/
def isSeparator (c : Char) : Bool := c = ' ' || c = '\t' || isBreak c

/-- Whether a character, or the end of the text, ends a token. -/
def endsToken : Option Char → Bool
  | none => true
  | some c => isSeparator c

/-- Whether a character, or the end of the text, ends a line. -/
def endsLine : Option Char → Bool
  | none => true
  | some c => isBreak c

/-- Whether a character may stand in the names of anchors and handles. -/
def isNameChar (c : Char) : Bool := c.isAlphanum || c = '-' || c = '_'

/-- Whether a character may stand in a text at all. -/
def isAllowed (c : Char) : Bool :=
  let code := c.toNat
  code = 9 || code = 10 || code = 13 || (0x20 ≤ code && code ≤ 0x7E) || code = 0x85 ||
    (0xA0 ≤ code && code ≤ 0xD7FF) || (0xE000 ≤ code && code ≤ 0xFFFD) || 0x10000 ≤ code

/-! ### Cursors -/

/-- A place in a text: the text from there on, and in front of it the number of characters, of
lines, and of characters of its line. -/
structure Cursor where
  rest : List Char
  index : Nat
  line : Nat
  column : Nat
deriving Repr

namespace Cursor

/-- The start of a text. -/
def start (text : List Char) : Cursor := ⟨text, 0, 0, 0⟩

/-- The place behind the next character. Marks of the byte order take no column. -/
def next (cursor : Cursor) : Cursor :=
  match cursor.rest with
  | [] => cursor
  | c :: rest =>
    if isBreak c then ⟨rest, cursor.index + 1, cursor.line + 1, 0⟩
    else ⟨rest, cursor.index + 1, cursor.line, if c = '\ufeff' then cursor.column
      else cursor.column + 1⟩

/-- The place so many characters on. -/
def forward : Nat → Cursor → Cursor
  | 0, cursor => cursor
  | count + 1, cursor => forward count cursor.next

/-- The character so many places on. -/
def ahead (cursor : Cursor) (count : Nat) : Option Char := cursor.rest[count]?

/-- Whether three given characters come next, and a token ends behind them. -/
def atMark (cursor : Cursor) (mark : Char) : Bool :=
  cursor.rest.take 3 = [mark, mark, mark] && endsToken (cursor.ahead 3)

/-- Whether a document starts or ends here, if this is the start of a line. -/
def atBorder (cursor : Cursor) : Bool := cursor.atMark '-' || cursor.atMark '.'

end Cursor

/-! ### Reading -/

/-- Reads from a cursor and moves it. -/
abbrev Scan := StateT Cursor (Except YamlFault)

namespace Scan

/-- The next character. -/
def peek : Scan (Option Char) := return (← get).rest.head?

/-- Passes over so many characters. -/
def forward (count : Nat) : Scan Unit := modify (Cursor.forward count)

/-- The text is no YAML here. -/
def fail {α : Type} : Scan α := throw .scanner

/-- The longest run of characters of a class. -/
def run (inClass : Char → Bool) : Scan (List Char) := do
  let found := (← get).rest.takeWhile inClass
  forward found.length
  return found

/-- Passes over a character if it is the given one. -/
def accept? (wanted : Char) : Scan Bool := do
  if (← peek) = some wanted then forward 1; return true else return false

/-- Passes over the end of a line, if there is one: what it counts as in a text. -/
def lineBreak : Scan (List Char) := do
  match ← peek with
  | none => return []
  | some c =>
    if !isBreak c then return []
    else
      forward 1
      return [if c.toNat = 0x85 then '\n' else c]

/-- Passes over a comment and the end of the line, and nothing else but blanks in front. -/
def restOfLine : Scan Unit := do
  let _ ← run (· = ' ')
  if (← peek) = some '#' then
    let _ ← run (!isBreak ·)
  if !endsLine (← peek) then fail
  let _ ← lineBreak

end Scan

end QueryDesk.Yaml
