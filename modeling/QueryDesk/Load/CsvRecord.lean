/-
**Text cut into records and cells.**

* `Csv.cut` — the records of a text. A comma separates cells; a line end, which is a line feed, a
  carriage return or both, ends a record. Lines of nothing but blanks are no records. A cell may
  stand in double quotes, where commas and line ends are text and a quote is written twice; what
  follows the closing quote is plain text again.
* `Csv.align` — the records as a header and rows. From the third record on a record may not be
  longer than the one before it; a shorter one is filled up with empty cells.
-/

import QueryDesk.Failure

namespace QueryDesk.Csv

/-! ### Cutting -/

/-- Where in a record the next character stands. -/
inductive Place where
  /-- At the start of a record. -/
  | recordStart
  /-- Behind blanks at the start of a record, which are given from the last to the first. -/
  | blanks (seen : List Char)
  /-- At the start of a cell. -/
  | cellStart
  /-- In a cell without quotes. -/
  | plain
  /-- Inside quotes. -/
  | quoted
  /-- Behind a quote inside quotes. -/
  | quoteSeen
  /-- Behind the carriage return that ended a record. -/
  | returned
  /-- Behind the carriage return that ended a line without a record. -/
  | returnedEmpty
deriving DecidableEq, Repr

/-- The cells of a record, with the number of the line that it ends on. Lines are counted from one;
line ends inside quotes do not count. -/
structure Record where
  cells : List String
  line : Nat
deriving DecidableEq, Repr

/-- What has been cut off so far: the current cell, the cells of its record in front of it, the
number of lines that have ended, and the records. Lists are held from the last to the first. -/
structure Cutter where
  place : Place
  cell : List Char
  cells : List String
  lines : Nat
  records : List Record
deriving Repr

namespace Cutter

/-- Before the first character. -/
def initial : Cutter := ⟨.recordStart, [], [], 0, []⟩

/-- One more character of the current cell. -/
def push (cutter : Cutter) (c : Char) (place : Place) : Cutter :=
  { cutter with place, cell := c :: cutter.cell }

/-- The current cell ends. -/
def endCell (cutter : Cutter) (place : Place) : Cutter :=
  { cutter with place, cell := [], cells := String.ofList cutter.cell.reverse :: cutter.cells }

/-- The current record ends. -/
def endRecord (cutter : Cutter) : Cutter :=
  { cutter with
    place := .recordStart, cells := [], lines := cutter.lines + 1
    records := ⟨cutter.cells.reverse, cutter.lines + 1⟩ :: cutter.records }

/-- A line without a record ends. -/
def endEmptyLine (cutter : Cutter) (place : Place) : Cutter :=
  { cutter with place, lines := cutter.lines + 1 }

/-- A character that ends a cell, or `none` for one that does not. -/
def endingStep? (cutter : Cutter) (c : Char) : Option Cutter :=
  if c = '\n' then some (cutter.endCell .recordStart).endRecord
  else if c = '\r' then some (cutter.endCell .returned)
  else if c = ',' then some (cutter.endCell .cellStart)
  else none

/-- One more character where a cell starts. -/
def startCell (cutter : Cutter) (c : Char) : Cutter :=
  (cutter.endingStep? c).getD <|
    if c = '"' then { cutter with place := .quoted } else cutter.push c .plain

/-- One more character where a record starts. -/
def startRecord (cutter : Cutter) (c : Char) : Cutter :=
  if c = '\n' then cutter.endEmptyLine .recordStart
  else if c = '\r' then cutter.endEmptyLine .returnedEmpty
  else if c = ' ' || c = '\t' then { cutter with place := .blanks [c] }
  else cutter.startCell c

/-- One more character. -/
def step (cutter : Cutter) (c : Char) : Cutter :=
  match cutter.place with
  | .recordStart => cutter.startRecord c
  | .blanks seen =>
    if c = '\n' then cutter.endEmptyLine .recordStart
    else if c = '\r' then cutter.endEmptyLine .returnedEmpty
    else if c = ' ' || c = '\t' then { cutter with place := .blanks (c :: seen) }
    else
      let inCell := { cutter with cell := seen }
      (inCell.endingStep? c).getD (inCell.push c .plain)
  | .cellStart => cutter.startCell c
  | .plain => (cutter.endingStep? c).getD (cutter.push c .plain)
  | .quoted => if c = '"' then { cutter with place := .quoteSeen } else cutter.push c .quoted
  | .quoteSeen =>
    (cutter.endingStep? c).getD (cutter.push c (if c = '"' then .quoted else .plain))
  | .returned => if c = '\n' then cutter.endRecord else cutter.endRecord.startRecord c
  | .returnedEmpty =>
    if c = '\n' then { cutter with place := .recordStart } else cutter.startRecord c

/-- The records at the end of a text, and the number of lines in front of a
quote that is still open. -/
def finish (cutter : Cutter) : List Record × Option Nat :=
  match cutter.place with
  | .recordStart | .blanks _ | .returnedEmpty => (cutter.records.reverse, none)
  | .quoted => (cutter.records.reverse, some cutter.lines)
  | .returned => (cutter.endRecord.records.reverse, none)
  | .cellStart | .plain | .quoteSeen =>
    ((cutter.endCell .recordStart).endRecord.records.reverse, none)

end Cutter

/-- The records of a text, and the number of lines in front of a quote that is never closed. A mark
of the byte order at the start is no text. -/
def cut (text : List Char) : List Record × Option Nat :=
  let text := match text with
    | c :: rest => if c.toNat = 0xFEFF then rest else text
    | [] => []
  (text.foldl Cutter.step .initial).finish

/-! ### Aligning -/

/-- Cells with empty ones behind them, so that there are so many. -/
def fill (width : Nat) (cells : List String) : List String :=
  cells ++ List.replicate (width - cells.length) ""

/-- The rows of the records behind the first row, each as wide as the row in front. -/
def alignRows (width : Nat) : List Record → Except Failure (List (List String))
  | [] => .ok []
  | record :: rest =>
    if width < record.cells.length then
      .error (.brokenTable ("Expected " ++ toString width ++ " fields in line " ++
        toString record.line ++ ", saw " ++ toString record.cells.length ++ "\n"))
    else (alignRows width rest).map (fill width record.cells :: ·)

/-- The header of a text and its rows, which all have one width, at least that of the header. -/
def align (text : String) : Except Failure (List String × List (List String)) := do
  let (records, open?) := cut text.toList
  let (header, rows) ← match records with
    | [] => pure ([], [])
    | [header] => pure (header.cells, [])
    | header :: first :: rest =>
      let width := max header.cells.length first.cells.length
      let rows ← alignRows width rest
      pure (header.cells, fill width first.cells :: rows)
  match open? with
  | some line => .error (.brokenTable ("EOF inside string starting at row " ++ toString line))
  | none => if header.isEmpty then .error .noColumns else pure (header, rows)

end QueryDesk.Csv
