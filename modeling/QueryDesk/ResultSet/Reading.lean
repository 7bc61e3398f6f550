/-
**Result sets from data and back.**

* `ResultKey`, `Row`, `Provenance`, `ResultSet` each have a `reading` and a `toValue`.
* `ResultSet.ofRecords` — keys and rows from records.
-/

import QueryDesk.ResultSet.Basic

namespace QueryDesk

open Checked

/-- Nothing for a text that is missing. -/
def textOrNull (text : Option String) : Value := (text.map Value.text).getD .null

/-- Reads a column type. -/
def ColumnType.reading : Reading ColumnType := Reading.oneOf ColumnType.ofName? .notOfEnum

namespace ResultKey

/-- Reads a column. -/
def reading : Reading ResultKey :=
  Reading.record fun fields =>
    mk <$> fields.required ["name"] Reading.text <*>
      fields.defaulted ["type"] .unknown ColumnType.reading <*>
      fields.optional ["comment"] Reading.text

/-- A column as data. -/
def toValue (key : ResultKey) : Value :=
  .record [("name", .text key.name), ("type", .text key.type.name),
    ("comment", textOrNull key.comment)]

end ResultKey

namespace Row

/-- Reads a row. -/
def reading : Reading Row :=
  Reading.record fun fields =>
    mk <$> fields.defaulted ["values"] [] (Reading.entries Reading.anything) <*>
      fields.defaulted ["meta"] Marks.empty fun data =>
        map Marks.ofEntries (Reading.entries (Reading.items Mark.reading) data)

/-- A row as data. -/
def toValue (row : Row) : Value :=
  .record [("values", .record row.values), ("meta", row.marks.toValue)]

end Row

namespace Provenance

/-- Reads the origin of a result set. -/
def reading : Reading Provenance :=
  Reading.record fun fields =>
    mk <$> fields.optional ["connectionName", "connection_name"] Reading.text <*>
      fields.optional ["tableName", "table_name"] Reading.text <*>
      fields.optional ["comment"] Reading.text <*>
      fields.optional ["type"] Reading.text <*>
      fields.optional ["editable"] Reading.truth <*>
      fields.optional ["compareKeys", "compare_keys"] (Reading.items CompareKey.reading) <*>
      fields.optional ["tableRule", "table_rule"] TableRule.reading

/-- The keys for matching rows as data. -/
def keysToValue (keys : Option (List CompareKey)) : Value :=
  (keys.map fun found => .list (found.map CompareKey.toValue)).getD .null

/-- The origin of a result set as data. -/
def toValue (style : NameStyle) (origin : Provenance) : Value :=
  .record [(style.pick "connectionName" "connection_name", textOrNull origin.connectionName),
    (style.pick "tableName" "table_name", textOrNull origin.tableName),
    ("comment", textOrNull origin.comment),
    ("type", textOrNull origin.type),
    ("editable", (origin.editable.map Value.bool).getD .null),
    (style.pick "compareKeys" "compare_keys", keysToValue origin.compareKeys),
    (style.pick "tableRule" "table_rule",
      (origin.tableRule.map (TableRule.toValue style)).getD .null)]

end Provenance

namespace ResultSet

/-- Reads a result set. -/
def reading : Reading ResultSet :=
  Reading.record fun fields =>
    mk <$> fields.defaulted ["keys"] [] (Reading.items ResultKey.reading) <*>
      fields.defaulted ["rows"] [] (Reading.items Row.reading) <*>
      fields.defaulted ["meta"] .unknown Provenance.reading <*>
      fields.optional ["sqlStatement", "sql_statement"] Reading.text <*>
      fields.optional ["queryConditions", "query_conditions"] ConditionTree.reading

/-- A result set as data. -/
def toValue (style : NameStyle) (set : ResultSet) : Value :=
  .record [("keys", .list (set.keys.map ResultKey.toValue)),
    ("rows", .list (set.rows.map Row.toValue)),
    ("meta", set.origin.toValue style),
    (style.pick "sqlStatement" "sql_statement", textOrNull set.statement),
    (style.pick "queryConditions" "query_conditions",
      (set.conditions.map ConditionTree.toValue).getD .null)]

/-- The row of a record. -/
def rowOfEntries (entries : List (Value × Value)) : Except Failure Row :=
  ((under "values" (Reading.entriesOf Reading.anything entries)).orFail "RdhRow").map
    fun values => ⟨values, Marks.empty⟩

/-- A result set of the given keys and records. -/
def ofRecords (keys : List ResultKey) (records : List (List (Value × Value)))
    (origin : Provenance) : Except Failure ResultSet := do
  let rows ← records.mapM rowOfEntries
  pure ⟨keys, rows, origin, none, none⟩

end ResultSet

end QueryDesk
