/-
**The texts of scalars.**

* `plainText` — a text without quotes; it may go on over several lines.
* `quotedText` — a text in single or double quotes, with the escapes of the latter.
* `blockText` — a text of indented lines, kept as they are or folded into one.

One line end between two lines of a text counts as a blank; of several, the first does not count.
-/

import QueryDesk.Yaml.Cursor
import QueryDesk.Json.Scalar
import QueryDesk.Text.Basic

namespace QueryDesk.Yaml

open Scan

/-- Ends of empty lines with blanks of the given sort in front, at most so many. -/
def emptyLines (blank : Char → Bool) : Nat → Scan (List Char)
  | 0 => return []
  | bound + 1 => do
    let _ ← run blank
    match ← lineBreak with
    | [] => return []
    | found => return found ++ (← emptyLines blank bound)

/-- The line ends of a text: the first counts as a blank if it is the only one, and not at all
otherwise, but a line end of its own sort is kept. -/
def foldBreaks (first others : List Char) : List Char :=
  if first ≠ ['\n'] then first ++ others else if others.isEmpty then [' '] else others

/-! ### Without quotes -/

/-- How many characters in front belong to a word of a plain text. -/
def plainRun (inFlow : Bool) : List Char → Nat
  | [] => 0
  | c :: rest =>
    let colonEnds := match rest.head? with
      | none => true
      | some next => isSeparator next || (inFlow && ",[]\x7b\x7d".toList.contains next)
    if isSeparator c || (c = ':' && colonEnds) || (inFlow &&
      ",?[]\x7b\x7d".toList.contains c) then 0
    else plainRun inFlow rest + 1

/-- Ends of empty lines inside a plain text, up to the border of a document: what they count as, and
whether the border was reached. -/
def plainBreaks : Nat → Scan (List Char × Bool)
  | 0 => return ([], false)
  | bound + 1 => do
    if (← get).atBorder && (← get).column = 0 then return ([], true)
    else
      let _ ← run (· = ' ')
      match ← lineBreak with
      | [] => return ([], false)
      | found =>
        let (others, border) ← plainBreaks bound
        return (found ++ others, border)

/-- What stands between two words of a plain text, and whether a line ended there. -/
def plainSpaces : Scan (List Char × Bool) := do
  let blanks ← run (· = ' ')
  match ← lineBreak with
  | [] => return (blanks, false)
  | first =>
    let (others, border) ← plainBreaks ((← get).rest.length + 1)
    return (if border then [] else foldBreaks first others, true)

/-- Words of a plain text behind given spaces, and whether a line ended behind the last one. -/
def plainWords (inFlow : Bool) (indent : Int) : Nat → List Char → Bool → Scan (List Char × Bool)
  | 0, _, lineEnded => return ([], lineEnded)
  | bound + 1, spaces, lineEnded => do
    let length := plainRun inFlow (← get).rest
    if (← peek) = some '#' || length = 0 then return ([], lineEnded)
    else
      let word := (← get).rest.take length
      forward length
      let (next, ended) ← plainSpaces
      if next.isEmpty || (← peek) = some '#' || (!inFlow && (← get).column < indent) then
        return (spaces ++ word, ended)
      else
        let (others, ended) ← plainWords inFlow indent bound next ended
        return (spaces ++ word ++ others, ended)

/-- A plain text whose lines are indented at least so far, and whether a line ended behind it. -/
def plainText (inFlow : Bool) (indent : Int) : Scan (String × Bool) := do
  let (text, ended) ← plainWords inFlow indent ((← get).rest.length + 1) [] false
  return (String.ofList text, ended)

/-! ### In quotes -/

/-- What a letter behind a backslash stands for. -/
def escapes : List (Char × Nat) := [
  ('0', 0), ('a', 7), ('b', 8), ('t', 9), ('\t', 9), ('n', 10), ('v', 11), ('f', 12), ('r', 13),
  ('e', 27), (' ', 32), ('"', 34), ('\\', 92), ('/', 47), ('N', 0x85), ('_', 0xA0), ('L', 0x2028),
  ('P', 0x2029)]

/-- How many digits follow a letter behind a backslash. -/
def escapeLengths : List (Char × Nat) := [('x', 2), ('u', 4), ('U', 8)]

/-- Ends of empty lines in quotes; a border of a document may not stand there. -/
def quotedBreaks : Nat → Scan (List Char)
  | 0 => return []
  | bound + 1 => do
    if (← get).atBorder then fail
    else
      let _ ← run fun c => c = ' ' || c = '\t'
      match ← lineBreak with
      | [] => return []
      | found => return found ++ (← quotedBreaks bound)

/-- What a backslash and what follows it stand for, behind the backslash. -/
def escaped : Scan (List Char) := do
  let some letter ← peek | fail
  match escapes.lookup letter, escapeLengths.lookup letter with
  | some code, _ => forward 1; return [Char.ofNat code]
  | none, some length =>
    forward 1
    let digits := (← get).rest.take length
    match digits.mapM Text.hexValue? with
    | none => fail
    | some values =>
      if values.length < length then fail
      else
        let code := values.foldl (fun code digit => code * 16 + digit) 0
        if 0x7fffffff < code then throw .numberOverflow
        else if 0x10ffff < code then throw .noCharacter
        else
          forward length
          return [Json.charOf code]
  | none, none =>
    if isBreak letter then
      let _ ← lineBreak
      quotedBreaks ((← get).rest.length + 1)
    else fail

/-- Characters of a quoted text up to a blank, a line end or the closing quote. -/
def quotedWord (double : Bool) : Nat → Scan (List Char)
  | 0 => return []
  | bound + 1 => do
    match ← peek with
    | none => return []
    | some c =>
      if isSeparator c then return []
      else if c = '\'' && !double then
        if (← get).ahead 1 = some '\'' then
          forward 2
          return '\'' :: (← quotedWord double bound)
        else return []
      else if c = '"' && double then return []
      else if c = '\\' && double then
        forward 1
        let found ← escaped
        return found ++ (← quotedWord double bound)
      else
        forward 1
        return c :: (← quotedWord double bound)

/-- What stands between two words of a quoted text. -/
def quotedSpaces : Scan (List Char) := do
  let blanks ← run fun c => c = ' ' || c = '\t'
  if (← peek).isNone then fail
  else
    match ← lineBreak with
    | [] => return blanks
    | first => return foldBreaks first (← quotedBreaks ((← get).rest.length + 1))

/-- Words of a quoted text and the closing quote. -/
def quotedWords (double : Bool) : Nat → Scan (List Char)
  | 0 => fail
  | bound + 1 => do
    if ← accept? (if double then '"' else '\'') then return []
    else
      let spaces ← quotedSpaces
      let word ← quotedWord double ((← get).rest.length + 1)
      return spaces ++ word ++ (← quotedWords double bound)

/-- A text in quotes. -/
def quotedText (double : Bool) : Scan String := do
  forward 1
  let first ← quotedWord double ((← get).rest.length + 1)
  let others ← quotedWords double ((← get).rest.length + 1)
  return String.ofList (first ++ others)

/-! ### Indented lines -/

/-- What becomes of the line ends behind a block text. -/
inductive Chomping where
  /-- One of them stays. -/
  | clip
  /-- None of them stays. -/
  | strip
  /-- All of them stay. -/
  | keep
deriving DecidableEq, Repr

/-- The chomping in the head of a block text. -/
def chomping? : Scan (Option Chomping) := do
  if ← accept? '+' then return some .keep
  else if ← accept? '-' then return some .strip
  else return none

/-- The indentation in the head of a block text. -/
def indentation? : Scan (Option Nat) := do
  match ← peek with
  | some c =>
    if c = '0' then fail
    else if c.isDigit then forward 1; return some (c.toNat - 48)
    else return none
  | none => return none

/-- The head of a block text. -/
def blockHead : Scan (Chomping × Option Nat) := do
  let early ← chomping?
  let indentation ← indentation?
  let late ← if early.isNone && indentation.isSome then chomping? else pure none
  if (← peek).any fun c => c ≠ ' ' && !isBreak c then fail
  restOfLine
  return ((early.or late).getD .clip, indentation)

/-- Empty lines in front of a block text of unknown indentation, and the widest column reached. -/
def leadingLines : Nat → Nat → Scan (List Char × Nat)
  | 0, widest => return ([], widest)
  | bound + 1, widest => do
    let blanks ← run (· = ' ')
    let column := (← get).column
    let widest := if blanks.isEmpty then widest else max widest column
    match ← lineBreak with
    | [] => return ([], widest)
    | found =>
      let (others, widest) ← leadingLines bound widest
      return (found ++ others, widest)

/-- Passes over blanks up to a column. -/
def skipIndent (indent : Nat) : Scan Unit := do
  let cursor ← get
  let blanks := (cursor.rest.takeWhile (· = ' ')).length
  forward (min blanks (indent - cursor.column))

/-- Empty lines between the lines of a block text. -/
def blockBreaks (indent : Nat) : Nat → Scan (List Char)
  | 0 => return []
  | bound + 1 => do
    skipIndent indent
    match ← lineBreak with
    | [] => return []
    | found => return found ++ (← blockBreaks indent bound)

/-- Lines of a block text behind given empty lines: the text, the end of its last line, and
the empty lines behind it. -/
def blockLines (folded : Bool) (indent : Nat) :
    Nat → List Char → Scan (List Char × List Char × List Char)
  | 0, breaks => return ([], [], breaks)
  | bound + 1, breaks => do
    let startsBlank := (← peek).any fun c => c = ' ' || c = '\t'
    let line ← run (!isBreak ·)
    let ending ← lineBreak
    let next ← blockBreaks indent ((← get).rest.length + 1)
    if (← get).column = indent && (← peek).isSome then
      let nextBlank := (← peek).any fun c => c = ' ' || c = '\t'
      let joint :=
        if folded && ending = ['\n'] && !startsBlank && !nextBlank then
          if next.isEmpty then [' '] else []
        else ending
      let (others, last, behind) ← blockLines folded indent bound next
      return (breaks ++ line ++ joint ++ others, last, behind)
    else return (breaks ++ line, ending, next)

/-- A block text inside a collection of the given indentation, behind its mark. -/
def blockText (folded : Bool) (outer : Int) : Scan String := do
  forward 1
  let (chomping, indentation) ← blockHead
  let least := max (outer + 1) 1
  let (breaks, indent) ← match indentation with
    | some width => do
      let indent := (least + width - 1).toNat
      pure (← blockBreaks indent ((← get).rest.length + 1), indent)
    | none => do
      let (breaks, widest) ← leadingLines ((← get).rest.length + 1) 0
      pure (breaks, max least.toNat widest)
  let (text, last, behind) ←
    if (← get).column = indent && (← peek).isSome then
      blockLines folded indent ((← get).rest.length + 1) breaks
    else pure ([], [], breaks)
  return String.ofList <| match chomping with
    | .strip => text
    | .clip => text ++ last
    | .keep => text ++ last ++ behind

end QueryDesk.Yaml
