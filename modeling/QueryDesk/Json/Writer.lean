/-
**Values as JSON documents.**

* `Layout` — a document on one line, or with every element on a line of its own; with all
  characters, or with escapes for those outside ASCII.
* `Json.pieces`, `Json.write` — a value as a document, piece by piece or as a whole. What JSON has
  no form for is written as its text.
* `Json.checkWritable` — a value can only be written when its numbers are not too long, and the keys
  of its dicts are texts, numbers, truth values or nothing.
-/

import QueryDesk.Value.Text
import QueryDesk.Failure

namespace QueryDesk.Json

open Text

/-- How a document is laid out: the blanks that each level is moved in by, without which it is on
one line, and whether characters outside ASCII are escaped. -/
structure Layout where
  indent : Option Nat
  asciiOnly : Bool
deriving DecidableEq, Repr

/-- A document on one line in ASCII. -/
def Layout.oneLine : Layout := ⟨none, true⟩

/-- A document with an element on each line, moved in by two blanks a level. -/
def Layout.indented : Layout := ⟨some 2, false⟩

/-- The escapes of a character by its number: one, or two for the halves of a large one. -/
def unicodeEscapes (code : Nat) : String :=
  if code < 0x10000 then "\\u" ++ hex 4 code
  else
    let rest := code - 0x10000
    "\\u" ++ hex 4 (0xd800 + rest / 0x400) ++ "\\u" ++ hex 4 (0xdc00 + rest % 0x400)

/-- A character inside quotes. -/
def escapedChar (asciiOnly : Bool) (c : Char) : String :=
  match c with
  | '"' => "\\\""
  | '\\' => "\\\\"
  | '\n' => "\\n"
  | '\r' => "\\r"
  | '\t' => "\\t"
  | '\x0c' => "\\f"
  | '\x08' => "\\b"
  | _ =>
    if c.toNat < 0x20 || (asciiOnly && decide (0x7f ≤ c.toNat)) then
      unicodeEscapes (codePoint c)
    else String.singleton c

/-- A text in quotes. -/
def quotedText (asciiOnly : Bool) (text : String) : String :=
  "\"" ++ String.join (text.toList.map (escapedChar asciiOnly)) ++ "\""

/-- A value that holds no others. -/
def atom (layout : Layout) : Value → String
  | .null => "null"
  | .bool truth => if truth then "true" else "false"
  | .int number => toString number
  | .double number => DoubleFormat.json.write number
  | value => quotedText layout.asciiOnly value.toText

/-- The text of a key. -/
def keyText : Value → String
  | .null => "null"
  | .bool truth => if truth then "true" else "false"
  | .double number => DoubleFormat.json.write number
  | value => value.toText

/-- The line break in front of an element on the given level. -/
def lineBreak (layout : Layout) (level : Nat) : String :=
  match layout.indent with
  | some width => "\n" ++ repeated ' ' (width * level)
  | none => ""

/-- What stands between two elements on the given level. -/
def separator (layout : Layout) (level : Nat) : String :=
  match layout.indent with
  | some _ => "," ++ lineBreak layout level
  | none => ", "

/-- Whether a value is written element by element. -/
def isNested : Value → Bool
  | .list _ => true
  | .tuple _ => true
  | .dict _ => true
  | _ => false

/-- The pieces of an element behind what stands in front of it: an atom is one piece with it. -/
def elementPieces (front : String) (element : Value) (pieces : List String) : List String :=
  if isNested element then front :: pieces else [front ++ String.join pieces]

/-- The pieces of all elements between the pieces that open and close them on the given level. -/
def bracketed (layout : Layout) (level : Nat) (opening closing : String) (inner : List String) :
    List String :=
  if inner.isEmpty then [opening ++ closing] else inner ++ [lineBreak layout level ++ closing]

mutual

/-- A value on the given level, in the pieces it is written in. -/
def piecesAt (layout : Layout) (level : Nat) : Value → List String
  | .list items =>
    bracketed layout level "[" "]"
      (itemPieces layout (level + 1) ("[" ++ lineBreak layout (level + 1)) items)
  | .tuple items =>
    bracketed layout level "[" "]"
      (itemPieces layout (level + 1) ("[" ++ lineBreak layout (level + 1)) items)
  | .dict entries =>
    bracketed layout level "\x7b" "\x7d"
      (entryPieces layout (level + 1) ("\x7b" ++ lineBreak layout (level + 1)) entries)
  | value => [atom layout value]

/-- The elements of an array, the first behind `front` and the others behind separators. -/
def itemPieces (layout : Layout) (level : Nat) (front : String) : List Value → List String
  | [] => []
  | item :: rest =>
    elementPieces front item (piecesAt layout level item) ++
      itemPieces layout level (separator layout level) rest

/-- The entries of an object, the first behind `front` and the others behind separators. -/
def entryPieces (layout : Layout) (level : Nat) (front : String) :
    List (Value × Value) → List String
  | [] => []
  | (key, value) :: rest =>
    front :: (quotedText layout.asciiOnly (keyText key) ++ ": ") ::
      (piecesAt layout level value ++ entryPieces layout level (separator layout level) rest)

end

/-- A value as a document, in the pieces it is written in: no text is split between two pieces, and
each text of an object is a piece of its own. -/
def pieces (layout : Layout) (value : Value) : List String := piecesAt layout 0 value

/-- A value as a document. -/
def write (layout : Layout) (value : Value) : String := String.join (pieces layout value)

/-- Whether a value can be the key of an object. -/
def isKey : Value → Bool
  | .null => true
  | .bool _ => true
  | .int _ => true
  | .double _ => true
  | .text _ => true
  | _ => false

mutual

/-- Succeeds when a value can be written. What is not written element by element
is written as a whole. -/
def checkWritable : Value → Except Failure Unit
  | .list items => checkWritableItems items
  | .tuple items => checkWritableItems items
  | .dict entries => checkWritableEntries entries
  | value => if value.hasText then .ok () else .error (.value .tooManyDigits)

/-- Succeeds when the elements of an array can be written. -/
def checkWritableItems : List Value → Except Failure Unit
  | [] => .ok ()
  | item :: rest => do
    checkWritable item
    checkWritableItems rest

/-- Succeeds when the keys and contents of an object can be written. -/
def checkWritableEntries : List (Value × Value) → Except Failure Unit
  | [] => .ok ()
  | (key, value) :: rest => do
    if isKey key then
      checkWritable key
      checkWritable value
      checkWritableEntries rest
    else
      .error (.unwritable ("keys must be str, int, float, bool or None, not " ++ key.kindName))

end

end QueryDesk.Json
