/-
**Result sets: keys, rows with their marks, and where they come from.**

* `ResultKey`, `Row`, `Provenance`, `ResultSet` — a column, a row, what is known about the origin,
  and all of them together.
* `Row.cell?`, `ResultSet.facts` — the value of a cell, and the cells of a row in the order of the
  keys.
* `ResultSet.markedCells` — the marks in the order of rows, keys and pushing.
-/

import QueryDesk.ResultSet.ColumnType
import QueryDesk.ResultSet.CompareKey
import QueryDesk.ResultSet.Mark
import QueryDesk.Rule.TableRule

namespace QueryDesk

/-- A column of a result set. -/
structure ResultKey where
  name : String
  type : ColumnType
  comment : Option String
deriving DecidableEq, Repr

/-- A row: its values by column, and the marks on its cells. -/
structure Row where
  values : List (String × Value)
  marks : Marks
deriving Repr

/-- What is known about the origin of a result set: the connection, the table, the
sort of statement, whether rows may be edited, the keys by which rows can be matched,
and the rules of the table. -/
structure Provenance where
  connectionName : Option String
  tableName : Option String
  comment : Option String
  type : Option String
  editable : Option Bool
  compareKeys : Option (List CompareKey)
  tableRule : Option TableRule
deriving Repr

/-- A result set: its columns, its rows, their origin, and the statement that produced
them with its conditions. -/
structure ResultSet where
  keys : List ResultKey
  rows : List Row
  origin : Provenance
  statement : Option String
  conditions : Option ConditionTree
deriving Repr

/-- Nothing is known about the origin. -/
def Provenance.unknown : Provenance := ⟨none, none, none, none, none, none, none⟩

namespace ResultKey

/-- A column of unknown type. -/
def ofName (name : String) : ResultKey := ⟨name, .unknown, none⟩

end ResultKey

namespace Row

/-- The value of a cell, if the row has one. -/
def cell? (row : Row) (column : String) : Option Value := row.values.lookup column

/-- The value of a cell, nothing if the row has none. -/
def cell (row : Row) (column : String) : Value := (row.cell? column).getD .null

/-- The row with one more mark. -/
def push (column : String) (mark : Mark) (row : Row) : Row :=
  { row with marks := row.marks.push column mark }

/-- The row with the same mark on several columns. -/
def pushAll (columns : List String) (mark : Mark) (row : Row) : Row :=
  columns.foldl (fun marked column => marked.push column mark) row

/-- The row without its marks, of one kind if one is given. -/
def clear (kind : Option MarkKind) (row : Row) : Row := { row with marks := row.marks.clear kind }

end Row

namespace ResultSet

/-- The names of the columns. -/
def names (set : ResultSet) : List String := set.keys.map ResultKey.name

/-- The first column of a name. -/
def key? (set : ResultSet) (name : String) : Option ResultKey :=
  set.keys.find? fun key => key.name == name

/-- The set without marks, of one kind if one is given. -/
def clear (kind : Option MarkKind) (set : ResultSet) : ResultSet :=
  { set with rows := set.rows.map (Row.clear kind) }

/-- The cells of a row under distinct names, in the order of the keys; cells the row
does not have are left out. -/
def facts (set : ResultSet) (row : Row) : List (String × Value) :=
  set.names.eraseDups.filterMap fun name => (row.cell? name).map fun value => (name, value)

/-- A mark with its column and the number of its row, from zero. -/
structure MarkedCell where
  row : Nat
  column : String
  mark : Mark
deriving Repr

/-- The marks of numbered rows. -/
def markedCellsFrom (names : List String) (kind : Option MarkKind) :
    Nat → List Row → List MarkedCell
  | _, [] => []
  | place, row :: rest =>
    (names.flatMap fun column => (row.marks.of column kind).map fun mark =>
      ⟨place, column, mark⟩) ++
      markedCellsFrom names kind (place + 1) rest

/-- The marks in the order of rows, keys and pushing. -/
def markedCells (set : ResultSet) (kind : Option MarkKind) : List MarkedCell :=
  markedCellsFrom set.names kind 0 set.rows

end ResultSet

end QueryDesk
