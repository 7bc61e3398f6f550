/-
**Data files.**

* `DataFormat.ofPath` — the format that the ending of a path stands for.
* `ResultSet.load` — the result set in a file. The file may be missing.
-/

import QueryDesk.Load.Csv
import QueryDesk.Load.Records
import QueryDesk.Json.Reader

namespace QueryDesk

/-- The path that stands for the input of the program. -/
def inputPath : String := "-"

/-- Text with every line end a line feed. -/
def unifyLineEnds : List Char → List Char
  | [] => []
  | '\r' :: '\n' :: rest => '\n' :: unifyLineEnds rest
  | c :: rest => (if c = '\r' then '\n' else c) :: unifyLineEnds rest

/-- A format of data files. -/
inductive DataFormat where
  | csv
  | json
deriving DecidableEq, Repr

/-- The format that the ending of a path stands for. What is put in is comma separated. -/
def DataFormat.ofPath (path : String) : Except Failure DataFormat :=
  if path = inputPath || Text.endsWith path ".csv" then .ok .csv
  else if Text.endsWith path ".json" then .ok .json
  else .error .unsupportedFile

/-- The result set in a file of the given content, `none` for a file that is not there; input that
is not there is empty. Declared types are for formats that do not tell types themselves. -/
def ResultSet.load (path : String) (content : Option String) (declared : Csv.Declared)
    (origin : Option Provenance) : Except Failure ResultSet := do
  let format ← DataFormat.ofPath path
  match if path = inputPath then some (content.getD "") else content with
  | none => .error (.file .missing path)
  | some text =>
    match format with
    | .csv => Csv.resultSet declared (origin.getD .unknown) text
    | .json => do
      let document ← Json.read (String.ofList (unifyLineEnds text.toList))
      ResultSet.ofDocument path origin document

end QueryDesk
