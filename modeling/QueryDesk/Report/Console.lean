/-
**Reports to be read on a console.**

* `Icons` — the signs in front of marked cells, emoji or words in brackets.
* `Report.consolePieces` — a title, a summary, the number of rows and of marks of each kind, and a
  line for each marked cell.
* `Report.canTell` — whether the line of a mark can be written.
-/

import QueryDesk.ResultSet.Basic
import QueryDesk.Value.Text

namespace QueryDesk

/-- The signs in front of marked cells. -/
inductive Icons where
  | emoji
  | words
deriving DecidableEq, Repr

/-- The sign of a kind of mark. -/
def Icons.sign (icons : Icons) (kind : MarkKind) : String :=
  match icons, kind with
  | .emoji, .added => "\u2795"
  | .emoji, .deleted => "\u2796"
  | .emoji, .updated => "\u270f\ufe0f"
  | .emoji, .violated => "\u274c"
  | .words, .added => "[ADD]"
  | .words, .deleted => "[DEL]"
  | .words, .updated => "[UPD]"
  | .words, .violated => "[RUL]"

namespace Report

/-- The value of a mark under a name, nothing when it has none. -/
def markValue (mark : Mark) (name : String) : Value :=
  ((mark.values.bind (·.lookup name)).getD .null)

/-- What a mark has to tell beyond its kind. -/
def detail (mark : Mark) : String :=
  match mark.kind with
  | .updated => "other_value=" ++ (markValue mark "other_value").quoted
  | .violated =>
    (markValue mark "message").toText ++ " " ++ (markValue mark "condition_values").toText
  | _ => ""

/-- Whether what a mark has to tell can be written: a whole number with too many digits cannot. -/
def canTell (mark : Mark) : Bool :=
  match mark.kind with
  | .updated => (markValue mark "other_value").hasText
  | .violated => (markValue mark "message").hasText && (markValue mark "condition_values").hasText
  | _ => true

/-- The line of a marked cell. -/
def cellLine (icons : Icons) (cell : ResultSet.MarkedCell) : String :=
  let told := detail cell.mark
  icons.sign cell.mark.kind ++ " row " ++ toString cell.row ++ " [" ++ cell.column ++ "] " ++
    cell.mark.kind.name ++ (if told.isEmpty then "" else "  (" ++ told ++ ")")

/-- The number of marks of a kind. -/
def countText (cells : List ResultSet.MarkedCell) (kind : MarkKind) : String :=
  kind.name ++ ": " ++ toString (cells.filter fun cell => cell.mark.kind == kind).length

/-- The lines of a report; the title stands below an empty line that belongs to it. -/
def consoleLines (icons : Icons) (set : ResultSet) (summary : Option String) : List String :=
  let cells := set.markedCells none
  ["\n=== " ++ (Text.nonEmpty? set.origin.tableName).getD "result set" ++ " ==="] ++
    (Text.nonEmpty? summary).toList ++
    ["Rows: " ++ toString set.rows.length ++ " | " ++
      " | ".intercalate (MarkKind.all.map (countText cells))] ++
    cells.map (cellLine icons)

/-- A report to be read on a console, in the pieces it is printed in: lines and their ends. -/
def consolePieces (icons : Icons) (set : ResultSet) (summary : Option String) : List String :=
  (consoleLines icons set summary).flatMap fun line => [line, "\n"]

end Report

end QueryDesk
