/-
**Reports as JSON documents.**

* `Value.toJsonData` — a value in terms of what JSON has: containers are arrays, keys are texts,
  decimals, dates and times are texts, and doubles that are not finite are nothing.
* `Report.document`, `Report.documentPieces` — a summary and a result set as an indented document.
* `Value.depth`, `ResultSet.isShallow` — how deep the values in a document nest whose form is free.
-/

import QueryDesk.ResultSet.Reading
import QueryDesk.Json.Writer

namespace QueryDesk

namespace Value

/-- A date and time or time of day in the international notation, universal time being a Z. -/
def withZoneLetter (text : String) (offset : Option Int) : String :=
  if offset = some 0 then String.ofList ((text.toList.reverse.drop 6).reverse) ++ "Z" else text

/-- A value that holds no others in terms of what JSON has. -/
def atomToJsonData : Value → Value
  | .double number => if number.isFinite then .double number else .null
  | .decimal number => .text number.toText
  | .datetime moment => .text (withZoneLetter (moment.toIso "T") moment.time.offset)
  | .date day => .text day.toIso
  | .time clock => .text (withZoneLetter clock.toIso clock.offset)
  | value => value

/-- A key in terms of what JSON has. -/
def keyToJsonData : Value → Value
  | .bool truth => .text (if truth then "true" else "false")
  | .double number => .text (DoubleFormat.json.write number)
  | .datetime moment => atomToJsonData (.datetime moment)
  | .time clock => atomToJsonData (.time clock)
  | value => .text value.toText

mutual

/-- A value in terms of what JSON has. -/
def toJsonData : Value → Value
  | .list items => .list (itemsToJsonData items)
  | .tuple items => .list (itemsToJsonData items)
  | .set items => .list (itemsToJsonData items)
  | .dict entries => .dict (entriesToJsonData entries)
  | value => atomToJsonData value

/-- Several values in terms of what JSON has. -/
def itemsToJsonData : List Value → List Value
  | [] => []
  | item :: rest => toJsonData item :: itemsToJsonData rest

/-- The entries of a dict in terms of what JSON has. -/
def entriesToJsonData : List (Value × Value) → List (Value × Value)
  | [] => []
  | (key, value) :: rest => (keyToJsonData key, toJsonData value) :: entriesToJsonData rest

end

/-! ### Nesting -/

mutual

/-- How deep a value nests; a value that holds no others is one level. -/
def depth : Value → Nat
  | .list items => depthOfItems items + 1
  | .tuple items => depthOfItems items + 1
  | .set items => depthOfItems items + 1
  | .dict entries => depthOfEntries entries + 1
  | _ => 1

/-- How deep the deepest of several values nests. -/
def depthOfItems : List Value → Nat
  | [] => 0
  | item :: rest => max (depth item) (depthOfItems rest)

/-- How deep the deepest content of a dict nests. -/
def depthOfEntries : List (Value × Value) → Nat
  | [] => 0
  | (_, value) :: rest => max (depth value) (depthOfEntries rest)

end

end Value

/-- The values of a row whose form is free: its cells, and what its marks say. -/
def Row.freeValues (row : Row) : List Value :=
  row.values.map Prod.snd ++
    (row.marks.entries.flatMap Prod.snd).flatMap fun mark => (mark.values.getD []).map Prod.snd

/-- The values of a rule whose form is free: what its leaves compare with, and the further
entries of what it reports. -/
def Rule.freeValues (rule : Rule) : List Value :=
  rule.conditions.leaves.map Leaf.value ++ rule.violation.others.map Prod.snd

/-- The values of a set whose form is free. -/
def ResultSet.freeValues (set : ResultSet) : List Value :=
  set.rows.flatMap Row.freeValues ++
    (set.origin.tableRule.toList.flatMap fun table => table.rules.flatMap Rule.freeValues) ++
    set.conditions.toList.flatMap fun tree => tree.leaves.map Leaf.value

/-- Whether the values of a set whose form is free nest no deeper than given. -/
def ResultSet.isShallow (nesting : Nat) (set : ResultSet) : Bool :=
  set.freeValues.all fun value => decide (value.depth ≤ nesting)

namespace Report

/-- A summary and a result set as data. -/
def documentData (set : ResultSet) (summary : Option String) : Value :=
  .record [("summary", textOrNull summary), ("resultSet", (set.toValue .document).toJsonData)]

/-- A summary and a result set as an indented document, in the pieces it is written in. -/
def documentPieces (set : ResultSet) (summary : Option String) : List String :=
  Json.pieces .indented (documentData set summary)

/-- A summary and a result set as an indented document. -/
def document (set : ResultSet) (summary : Option String) : String :=
  Json.write .indented (documentData set summary)

end Report

end QueryDesk
