/-
**Columns whose types are found from their values.**

* `FrameColumn` — a column of values of one kind; in most kinds a value may be missing.
* `FrameColumn.ofValues` — the kind that a list of values asks for: whole numbers, doubles and truth
  values where all values are such, points in time, and else any values.
* `FrameColumn.restored` — doubles that only stand for whole numbers because some are missing become
  whole numbers again.
* `ResultSet.ofFrame`, `ResultSet.retyped` — a result set from such columns, and the result set with
  the types its own values ask for.
-/

import QueryDesk.ResultSet.Basic
import QueryDesk.Calendar.Timestamp

namespace QueryDesk

/-- A column of values of one kind. -/
inductive FrameColumn where
  | integers (cells : List (Option Int))
  | doubles (cells : List Binary64)
  | truths (cells : List (Option Bool))
  | texts (cells : List (Option String))
  | moments (cells : List (Option Datetime))
  | values (cells : List Value)
deriving Repr

/-- The smallest whole number of a column. -/
def smallestInteger : Int := -9223372036854775808

/-- The largest whole number of a column with negative or missing ones. -/
def largestSigned : Int := 9223372036854775807

/-- The largest whole number of a column. -/
def largestUnsigned : Int := 18446744073709551615

/-- What has been seen in a list of values. Something `unsigned` is a whole number too large to have
a sign; among the `other` are whole numbers that no column holds together. -/
structure Seen where
  null : Bool := false
  nan : Bool := false
  truth : Bool := false
  int : Bool := false
  unsigned : Bool := false
  negative : Bool := false
  double : Bool := false
  other : Bool := false
deriving Repr

namespace Seen

/-- What has been seen after one more whole number. Once something is missing, whole numbers are
kept as doubles, and their size does not matter. -/
def addInt (seen : Seen) (number : Int) : Seen :=
  if seen.null then { seen with int := true }
  else
    let unsigned := seen.unsigned || decide (largestSigned < number ∧ number ≤ largestUnsigned)
    let negative := seen.negative || decide (smallestInteger ≤ number ∧ number < 0)
    { seen with int := true, unsigned, negative
                other := seen.other || (unsigned && negative) ||
                  decide (largestUnsigned < number ∨ number < smallestInteger) }

/-- What has been seen after one more value. -/
def add (seen : Seen) : Value → Seen
  | .null => { seen with null := true }
  | .bool _ => { seen with truth := true }
  | .int number => seen.addInt number
  | .double .nan => { seen with nan := true }
  | .double _ => { seen with double := true }
  | _ => { seen with other := true }

/-- What is seen in a list of values. -/
def inValues (values : List Value) : Seen := values.foldl add {}

end Seen

/-- A number as a double, not-a-number for anything else. -/
def doubleOfNumber : Value → Binary64
  | .int number => .ofInt number
  | .double number => number
  | _ => .nan

/-- A whole number, if the value is one. -/
def intOfNumber : Value → Option Int
  | .int number => some number
  | _ => none

/-- A truth value, if the value is one. -/
def truthOfValue : Value → Option Bool
  | .bool truth => some truth
  | _ => none

/-- A point in time near enough to 1970, nothing, or neither. -/
def momentOfValue? : Value → Option (Option Datetime)
  | .null => some none
  | .double .nan => some none
  | .datetime moment =>
    if (Timestamp.Stamp.mk moment 0).isInReach then some (some moment) else none
  | _ => none

/-- Points in time, all with the same offset or all without. -/
def momentsOfValues? (values : List Value) : Option (List (Option Datetime)) := do
  let cells ← values.mapM momentOfValue?
  match cells.filterMap id with
  | [] => none
  | first :: rest =>
    if rest.all fun moment => moment.time.offset == first.time.offset then some cells else none

namespace FrameColumn

/-- The column that a list of values asks for. -/
def ofValues (values : List Value) : FrameColumn :=
  let seen := Seen.inValues values
  let numbers := seen.int || seen.double
  if !seen.other && seen.truth && !seen.null && !seen.nan && !numbers then
    .truths (values.map truthOfValue)
  else if seen.other || seen.truth then
    match momentsOfValues? values with
    | some cells => .moments cells
    | none => .values values
  else if seen.double || seen.nan || (seen.null && seen.int) then
    .doubles (values.map doubleOfNumber)
  else if seen.int then .integers (values.map intOfNumber)
  else .values values

/-- The whole number that a double stands for as the cell of a column, or none
inside when it is missing. -/
def integerCell (cell : Binary64) : Except Failure (Option Int) :=
  match cell.toInt? with
  | none => .ok none
  | some number =>
    if smallestInteger ≤ number ∧ number ≤ largestSigned then .ok (some number)
    else .error .unsafeInteger

/-- Doubles that only stand for whole numbers because some are missing become whole numbers. -/
def restored : FrameColumn → Except Failure FrameColumn
  | .doubles cells =>
    let present := cells.filter fun cell => !cell.isNaN
    if present.length < cells.length ∧ !present.isEmpty ∧ present.all Binary64.isWhole then
      (cells.mapM integerCell).map .integers
    else .ok (.doubles cells)
  | column => .ok column

/-- The type of a column. -/
def type : FrameColumn → ColumnType
  | .integers _ => .integer
  | .doubles _ => .double
  | .truths _ => .boolean
  | .texts _ => .text
  | .moments _ => .timestamp
  | .values _ => .text

/-- A value of a column of any values; not-a-number counts as missing. -/
def plainCell : Value → Value
  | .double .nan => .null
  | .decimal (.nan ..) => .null
  | value => value

/-- The cells of a column as values. -/
def cells : FrameColumn → List Value
  | .integers cells => cells.map fun cell => (cell.map Value.int).getD .null
  | .doubles cells => cells.map fun cell => plainCell (.double cell)
  | .truths cells => cells.map fun cell => (cell.map Value.bool).getD .null
  | .texts cells => cells.map fun cell => (cell.map Value.text).getD .null
  | .moments cells => cells.map fun cell => (cell.map Value.datetime).getD .null
  | .values cells => cells.map plainCell

end FrameColumn

/-- A column with its name. -/
abbrev NamedColumn := String × FrameColumn

/-- The rows of columns of equal length. -/
def rowsOfColumns (columns : List (String × List Value)) (count : Nat) : List Row :=
  (List.range count).map fun place =>
    ⟨columns.map fun (name, cells) => (name, cells[place]?.getD .null), Marks.empty⟩

namespace ResultSet

/-- The number of rows that columns have; without columns there are none. -/
def rowCount : List NamedColumn → Nat
  | [] => 0
  | (_, column) :: _ => column.cells.length

/-- A result set from columns under distinct names. -/
def ofFrame (columns : List NamedColumn) (origin : Provenance) : Except Failure ResultSet := do
  if !(columns.map Prod.fst).Nodup then .error .ambiguousColumn
  else
    let restored ← columns.mapM fun (name, column) => do
      let done ← column.restored
      pure (name, done)
    let keys := restored.map fun (name, column) => ⟨name, column.type, none⟩
    let cells := restored.map fun (name, column) => (name, column.cells)
    pure ⟨keys, rowsOfColumns cells (rowCount columns), origin, none, none⟩

/-- The columns of a set under the names of its keys. -/
def toFrame (set : ResultSet) : List NamedColumn :=
  set.names.map fun name => (name, .ofValues (set.rows.map fun row => row.cell name))

/-- The result set with the types its own values ask for. -/
def retyped (set : ResultSet) : Except Failure ResultSet := ofFrame set.toFrame set.origin

end ResultSet

end QueryDesk
