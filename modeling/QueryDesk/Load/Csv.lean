/-
**Result sets from comma separated text.**

* `Csv.columnNames` — the names in a header, made distinct.
* `Csv.table` — the columns of a text. Cells in front of the named ones are row labels and no
  column. Where a cell does not fit the declared kind of its column, all kinds are inferred.
* `Csv.resultSet` — the result set of a text with the declared types of its columns.
-/

import QueryDesk.Load.CsvRecord
import QueryDesk.Load.CsvColumn

namespace QueryDesk.Csv

/-- The declared types of columns. -/
abbrev Declared := List (String × ColumnType)

/-! ### Names -/

/-- A name with a number behind it that no other column has: the number goes up while another column
of the header is called like that, or the result has been given before. -/
def freshName (header : List String) (given : List (String × Nat)) (name : String) :
    Nat → Nat → String × Nat
  | 0, count => (name ++ "." ++ toString count, count + 1)
  | tries + 1, count =>
    let candidate := name ++ "." ++ toString count
    if header.contains candidate then freshName header given name tries (count + 1)
    else
      match given.lookup candidate with
      | some (taken + 1) => freshName header given name tries (taken + 1)
      | _ => (candidate, count + 1)

/-- The count of a name with a new value. -/
def setCount (counts : List (String × Nat)) (name : String) (count : Nat) : List (String × Nat) :=
  (name, count) :: counts.filter fun entry => entry.1 != name

/-- A column of a header: its name, and the name that the header gives it. -/
structure HeaderName where
  name : String
  written : String
deriving DecidableEq, Repr

/-- Distinct names for the places of a header, in the order of the given places. -/
def distinctNames (counts : List (String × Nat)) (header : List String) :
    List (Nat × String) → List (Nat × HeaderName)
  | [] => []
  | (place, name) :: rest =>
    let taken := (counts.lookup name).getD 0
    if taken = 0 then
      (place, ⟨name, name⟩) :: distinctNames (setCount counts name 1) header rest
    else
      let (fresh, next) := freshName header counts name (header.length + counts.length) taken
      let counts := setCount (setCount counts name next) fresh 1
      (place, ⟨fresh, name⟩) :: distinctNames counts (header.set place fresh) rest

/-- The names of the columns of a header. Empty names are called by their place, and they
make way for given names. -/
def columnNames (header : List String) : List HeaderName :=
  let places := header.zipIdx.map fun (name, place) => (place, name)
  let named := places.map fun (place, name) =>
    (place, if name.isEmpty then "Unnamed: " ++ toString place else name)
  let unnamed (entry : Nat × String) : Bool := (header[entry.1]?.getD "").isEmpty
  let ordered := named.filter (!unnamed ·) ++ named.filter unnamed
  let distinct := distinctNames [] (named.map Prod.snd) ordered
  (List.range header.length).filterMap fun place => distinct.lookup place

/-! ### Columns -/

/-- The cells of the rows at one place. -/
def column (rows : List (List String)) (place : Nat) : List (Option String) :=
  present (rows.map fun row => row[place]?.getD "")

/-- The kind that a column is declared to have, by its own name or by the name it shares. -/
def declaredKind? (declared : Declared) (name : HeaderName) : Option CellKind :=
  let ofName (spelling : String) := (declared.lookup spelling).bind cellKind?
  (ofName name.name).or (ofName name.written)

/-- The columns of a header and rows with the declared kinds, if all cells fit. -/
def declaredColumns? (declared : Declared) (named : List (HeaderName × List (Option String))) :
    Option (List NamedColumn) :=
  named.mapM fun (name, cells) =>
    match declaredKind? declared name with
    | some kind => (readAs kind cells).map fun column => (name.name, column)
    | none => some (name.name, infer cells)

/-- The columns of a header and rows. -/
def columns (declared : Declared) (header : List String) (rows : List (List String)) :
    List NamedColumn :=
  let labels := (rows.head?.map List.length).getD 0 - header.length
  let named := (columnNames header).zipIdx.map fun (name, place) =>
    (name, column rows (labels + place))
  if rows.isEmpty then named.map fun (name, _) => (name.name, .values [])
  else (declaredColumns? declared named).getD
    (named.map fun (name, cells) => (name.name, infer cells))

/-- The result set of a text. A declared type stays the type of its column,
whatever its cells are. -/
def resultSet (declared : Declared) (origin : Provenance) (text : String) :
    Except Failure ResultSet := do
  let (header, rows) ← align text
  let set ← ResultSet.ofFrame (columns declared header rows) origin
  let keys := set.keys.map fun key => { key with type := (declared.lookup key.name).getD key.type }
  pure { set with keys }

end QueryDesk.Csv
