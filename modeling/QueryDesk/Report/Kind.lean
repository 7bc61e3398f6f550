/-
**The kinds of reports.**

* `ReportKind.ofName` — the kind of a name; there are two.
* `ReportKind.pieces`, `ReportKind.text` — what a report of a kind prints, piece by piece or as a
  whole.
* `ReportKind.print` — the same, unless something in the report cannot be written.
-/

import QueryDesk.Report.Console
import QueryDesk.Report.Document

namespace QueryDesk

/-- A kind of report. -/
inductive ReportKind where
  | console
  | json
deriving DecidableEq, Repr

namespace ReportKind

/-- The kind of a name. -/
def ofName (name : String) : Except Failure ReportKind :=
  match name with
  | "console" => .ok .console
  | "json" => .ok .json
  | _ => .error .unsupportedReport

/-- What a report prints, in the pieces it is printed in. -/
def pieces (kind : ReportKind) (icons : Icons) (set : ResultSet) (summary : Option String) :
    List String :=
  match kind with
  | .console => Report.consolePieces icons set summary
  | .json => Report.documentPieces set summary ++ ["\n"]

/-- What a report prints. -/
def text (kind : ReportKind) (icons : Icons) (set : ResultSet) (summary : Option String) : String :=
  String.join (kind.pieces icons set summary)

/-- Whether all that stands in a report can be written. -/
def canPrint (kind : ReportKind) (set : ResultSet) (summary : Option String) : Bool :=
  match kind with
  | .console => (set.markedCells none).all fun cell => Report.canTell cell.mark
  | .json => (Report.documentData set summary).hasText

/-- Prints a report. -/
def print (kind : ReportKind) (icons : Icons) (set : ResultSet) (summary : Option String) :
    Except Failure String :=
  if kind.canPrint set summary then .ok (kind.text icons set summary)
    else .error (.tooManyDigits none)

end ReportKind

end QueryDesk
