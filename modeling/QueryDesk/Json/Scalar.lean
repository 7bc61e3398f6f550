/-
**Literals, numbers and texts of JSON documents.**

* `Stop` — why reading stopped, with the number of characters that were left.
* `literal?` — the words for nothing, truth values, infinities and not-a-number.
* `number?` — the longest number a text begins with; one without a point and a
  power of ten is whole.
* `textBody` — a text behind its opening quote.
-/

import QueryDesk.Json.Fault
import QueryDesk.Value.Basic
import QueryDesk.Number.Numeral
import QueryDesk.Text.Half

namespace QueryDesk.Json

open Text

/-- Why reading stopped. -/
inductive Stop where
  /-- The text breaks the grammar, with this many characters left. -/
  | fault (reason : JsonReason) (left : Nat)
  /-- A whole number is too long. -/
  | tooManyDigits (count : Nat)
deriving DecidableEq, Repr

/-- What was read, with the text behind it. -/
abbrev Scanned (α : Type) := Except Stop (α × List Char)

/-- Whether a character may stand between the tokens. -/
def isGap (c : Char) : Bool := c == ' ' || c == '\t' || c == '\n' || c == '\r'

/-- The text behind the blanks at its beginning. -/
def skipGaps (text : List Char) : List Char := text.dropWhile isGap

/-- The words that stand for a value. -/
def words : List (String × Value) :=
  [("null", .null), ("true", .bool true), ("false", .bool false), ("NaN", .double .nan),
    ("Infinity", .double (.infinite false)), ("-Infinity", .double (.infinite true))]

/-- The word a text begins with, as a value. -/
def literal? (text : List Char) : Option (Value × List Char) :=
  words.findSome? fun (word, value) =>
    if word.toList.isPrefixOf text then some (value, text.drop word.length) else none

/-! ### Numbers -/

/-- The digits in front of a point: a zero alone, or digits that begin with another one. -/
def wholePart (text : List Char) : List Char × List Char :=
  match text with
  | '0' :: rest => (['0'], rest)
  | _ => (text.takeWhile isAsciiDigit, text.dropWhile isAsciiDigit)

/-- A point and digits, if the text begins with them. -/
def fractionPart (text : List Char) : List Char × List Char :=
  match text with
  | '.' :: rest =>
    if (rest.head?.any isAsciiDigit) then
      (rest.takeWhile isAsciiDigit, rest.dropWhile isAsciiDigit)
    else ([], text)
  | _ => ([], text)

/-- The power of ten that a text begins with. -/
def powerPart (text : List Char) : Option Int × List Char :=
  match text with
  | c :: rest =>
    if c = 'e' ∨ c = 'E' then
      let (negative, digits) := Numeral.splitSign rest
      if digits.head?.any isAsciiDigit then
        (some (Numeral.signed negative (readDigits (digits.takeWhile isAsciiDigit))),
          digits.dropWhile isAsciiDigit)
      else (none, text)
    else (none, text)
  | [] => (none, [])

/-- The number a text begins with. -/
def number? (text : List Char) : Option (Scanned Value) :=
  let (negative, body) := match text with
    | '-' :: rest => (true, rest)
    | _ => (false, text)
  let (whole, afterWhole) := wholePart body
  if whole.isEmpty then none
  else
    let (fraction, afterFraction) := fractionPart afterWhole
    let (power, rest) := powerPart afterFraction
    if fraction.isEmpty ∧ power = none then
      some (if Numeral.maxDigits < whole.length then .error (.tooManyDigits whole.length)
        else .ok (.int (Numeral.signed negative (readDigits whole)), rest))
    else
      let number : Numeral.Scientific :=
        ⟨negative, readDigits (whole ++ fraction), power.getD 0 - fraction.length⟩
      some (.ok (.double number.toDouble, rest))

/-! ### Texts -/

/-- The character that a letter behind a backslash stands for. -/
def escaped? : Char → Option Char
  | '"' => some '"'
  | '\\' => some '\\'
  | '/' => some '/'
  | 'b' => some '\x08'
  | 'f' => some '\x0c'
  | 'n' => some '\n'
  | 'r' => some '\r'
  | 't' => some '\t'
  | _ => none

/-- The number in four hexadecimal digits. -/
def fourDigits? : List Char → Option Nat
  | [a, b, c, d] => do
    some (((← hexValue? a) * 16 + (← hexValue? b)) * 256 + (← hexValue? c) * 16 + (← hexValue? d))
  | _ => none

/-- The two halves of a character beyond the first plane, joined. -/
def joinHalves (high low : Nat) : Char :=
  Char.ofNat (0x10000 + (high - 0xd800) * 0x400 + (low - 0xdc00))

/-- Whether a number is the first half of a character beyond the first plane. -/
def isHighHalf (code : Nat) : Bool := decide (0xd800 ≤ code) && decide (code < 0xdc00)

/-- Whether a number is the second half of a character beyond the first plane. -/
def isLowHalf (code : Nat) : Bool := decide (0xdc00 ≤ code) && decide (code < 0xe000)

/-- The character with a number, which may be that of half a character alone. -/
def charOf (code : Nat) : Char :=
  if isHighHalf code || isLowHalf code then half code else Char.ofNat code

/-- The character of an escape behind its letter u, with the number of characters it takes up. Two
escapes that are the halves of one character are read together; an escape is only read when
something follows it. The error is the number of characters left behind the letter at fault. -/
def unicodeEscape (text : List Char) : Except Nat (Char × Nat) :=
  let after := text.drop 4
  match fourDigits? (text.take 4) with
  | none => .error text.length
  | some code =>
    if after.isEmpty then .error text.length
    else if isHighHalf code && ['\\', 'u'].isPrefixOf after && decide (6 < after.length) then
      match fourDigits? ((after.drop 2).take 4) with
      | none => .error (after.drop 2).length
      | some low => .ok (if isLowHalf low then (joinHalves code low, 10) else (charOf code, 4))
    else .ok (charOf code, 4)

/-- Reads a text behind its opening quote, at which `opened` characters were left. -/
def textBody (opened : Nat) (reversed : List Char) (text : List Char) : Scanned String :=
  match text with
  | [] => .error (.fault .unterminatedText opened)
  | '"' :: rest => .ok (String.ofList reversed.reverse, rest)
  | ['\\'] => .error (.fault .unterminatedText opened)
  | '\\' :: 'u' :: rest =>
    match unicodeEscape rest with
    | .ok (meant, size) => textBody opened (meant :: reversed) (rest.drop size)
    | .error left => .error (.fault .badUnicodeEscape (left + 1))
  | '\\' :: c :: rest =>
    match escaped? c with
    | some meant => textBody opened (meant :: reversed) rest
    | none => .error (.fault .badEscape (rest.length + 2))
  | c :: rest =>
    if c.toNat < 0x20 then .error (.fault .controlCharacter (rest.length + 1))
    else textBody opened (c :: reversed) rest
termination_by text.length
decreasing_by all_goals (simp only [List.length_cons, List.length_drop]; omega)

end QueryDesk.Json
