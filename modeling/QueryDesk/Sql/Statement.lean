/-
**Statements on the rows of a table.**

* `tableName` — the name of a table, behind the name of its schema if there is one.
* `Target.insert`, `Target.update`, `Target.delete` — statements with a placeholder for every value;
  an insert leaves out the columns whose value is nothing.
* `viewQuery` — the query for the rows of a table, all of them or those that meet conditions.
-/

import QueryDesk.Sql.Clause
import QueryDesk.Schema.Basic

namespace QueryDesk.Sql

/-- The name of a table in SQL, behind the name of its schema if there is one. -/
def tableName (quote : Bool) (schema : Option String) (table : String) : String :=
  match schema with
  | none => quoteName quote table
  | some name =>
    if name.isEmpty then quoteName quote table
    else quoteName quote name ++ "." ++ quoteName quote table

/-- The placeholder of the value with the given number, counted from zero. -/
def PlaceholderStyle.mark (style : PlaceholderStyle) (place : Nat) : String :=
  match style with
  | .simple => "?"
  | .positioned => "$" ++ toString (place + 1)

/-- The table a statement is about, with the types of its columns, and how the
statement is written. -/
structure Target where
  table : String
  columns : ColumnTypes
  style : PlaceholderStyle
  quote : Bool

namespace Target

/-- The type of a column, unknown when the column is. -/
def typeOf (target : Target) (column : String) : ColumnType :=
  (target.columns.lookup column).getD .unknown

/-- The values as they are bound, by column. -/
def converted (target : Target) : List (String × Value) → Except Failure (List (String × Value))
  | [] => .ok []
  | (column, value) :: rest => do
    let bound ← ((target.typeOf column).bindValue value).mapError Failure.value
    let others ← target.converted rest
    pure ((column, bound) :: others)

/-- The marks of placeholders, the first with the given number. -/
def marksFrom (target : Target) (place count : Nat) : List String :=
  (List.range count).map fun offset => target.style.mark (place + offset)

/-- A column with its placeholder. -/
def assignment (target : Target) (column mark : String) : String :=
  quoteName target.quote column ++ " = " ++ mark

/-- Columns with their placeholders, the first with the given number. -/
def assignments (target : Target) (place : Nat) (entries : List (String × Value)) : List String :=
  (entries.map Prod.fst).zipWith target.assignment (target.marksFrom place entries.length)

/-- The statement that adds a row. -/
def insert (target : Target) (values : List (String × Value)) : Except Failure BoundQuery := do
  let present := (← target.converted values).filter fun entry => !entry.2.isNull
  pure
    { query := "INSERT INTO " ++ target.table ++ " (" ++
        ",".intercalate (present.map fun entry => quoteName target.quote entry.1) ++ ") VALUES (" ++
        ",".intercalate (target.marksFrom 0 present.length) ++ ")"
      binds := present.map Prod.snd }

/-- The statement that changes the rows in which columns have given values. -/
def update (target : Target) (values conditions : List (String × Value)) :
    Except Failure BoundQuery := do
  let changed ← target.converted values
  let wanted ← target.converted conditions
  pure
    { query := "UPDATE " ++ target.table ++ " SET " ++
        ",".intercalate (target.assignments 0 changed) ++ " WHERE " ++
        " AND ".intercalate (target.assignments changed.length wanted)
      binds := (changed ++ wanted).map Prod.snd }

/-- The statement that removes the rows in which columns have given values. -/
def delete (target : Target) (conditions : List (String × Value)) : Except Failure BoundQuery := do
  let wanted ← target.converted conditions
  pure
    { query := "DELETE FROM " ++ target.table ++ " WHERE " ++
        " AND ".intercalate (target.assignments 0 wanted)
      binds := wanted.map Prod.snd }

end Target

/-- The types of a table's columns. -/
def columnTypesOf (table : Table) : ColumnTypes :=
  table.columns.map fun column => (column.name, column.type)

/-- The query for the rows of a table that meet a condition, before its parameters are replaced. -/
def viewText (name : String) (clause : Option Clause) : String × Binds :=
  let lead := "SELECT * \nFROM " ++ name ++ " "
  match clause with
  | some found =>
    if found.text.isEmpty then (lead, []) else (lead ++ "\nWHERE\n" ++ found.text, found.binds)
  | none => (lead, [])

/-- The query for the rows of a table, all of them or those that meet conditions. -/
def viewQuery (style : PlaceholderStyle) (quote : Bool) (schema : Option String) (table : Table)
    (conditions : Option ConditionTree) : Except Failure BoundQuery := do
  let clause ← match conditions with
    | some tree => (compile (columnTypesOf table) quote standardIndent 1 tree).map some
    | none => pure none
  let (text, binds) := viewText (tableName quote schema table.name) clause
  normalize style (some binds) (Text.strip text)

end QueryDesk.Sql
