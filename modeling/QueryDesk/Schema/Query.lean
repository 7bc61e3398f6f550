/-
**Queries and what is asked of their results.**

* `QueryHints` — what the caller says about the table a query reads.
* `QueryRequest` — a statement with its conditions and hints.
-/

import QueryDesk.Schema.Reading

namespace QueryDesk

open Checked

/-- What the caller says about the table a query reads. -/
structure QueryHints where
  tableName : Option String
  comment : Option String
  compareKeys : Option (List CompareKey)
  editable : Option Bool
deriving Repr

/-- A statement with its conditions and hints. -/
structure QueryRequest where
  sql : String
  conditions : Option ConditionTree
  hints : Option QueryHints
deriving Repr

namespace QueryHints

/-- Reads hints. -/
def reading : Reading QueryHints :=
  Reading.record fun fields =>
    mk <$> fields.optional ["tableName", "table_name"] Reading.text <*>
      fields.optional ["comment"] Reading.text <*>
      fields.optional ["compareKeys", "compare_keys"] (Reading.items CompareKey.reading) <*>
      fields.optional ["editable"] Reading.truth

/-- Hints as data. -/
def toValue (style : NameStyle) (hints : QueryHints) : Value :=
  .record [(style.pick "tableName" "table_name", textOrNull hints.tableName),
    ("comment", textOrNull hints.comment),
    (style.pick "compareKeys" "compare_keys", Provenance.keysToValue hints.compareKeys),
    ("editable", (hints.editable.map Value.bool).getD .null)]

end QueryHints

namespace QueryRequest

/-- Reads a request. -/
def reading : Reading QueryRequest :=
  Reading.record fun fields =>
    mk <$> fields.required ["sql"] Reading.text <*>
      fields.optional ["conditions"] ConditionTree.reading <*>
      fields.optional ["meta"] QueryHints.reading

/-- A request as data. -/
def toValue (style : NameStyle) (request : QueryRequest) : Value :=
  .record [("sql", .text request.sql),
    ("conditions", (request.conditions.map ConditionTree.toValue).getD .null),
    ("meta", (request.hints.map (QueryHints.toValue style)).getD .null)]

end QueryRequest

end QueryDesk
