/-
**The rules of a table.**

A rule names a condition tree that holds for the rows that violate it, and the column where at most
a given number of violations are marked.

* `TableRule`, `Rule`, `Violation` — the rules of a table, one rule, and what is done about it.
* `TableRule.reading`, `TableRule.toValue` — from data and back; the names of
  the rules are distinct.
-/

import QueryDesk.Model.NameStyle
import QueryDesk.Rule.ConditionReading

namespace QueryDesk

/-- What is done about a violated rule: the column that is marked, the number of rows that are
marked at most, and further entries, kept as they are. -/
structure Violation where
  column : String
  limit : Nat
  others : List (String × Value)
deriving Repr

/-- A rule: what holds for the rows that violate it, and what is done about them. -/
structure Rule where
  name : String
  conditions : ConditionTree
  violation : Violation
deriving Repr

/-- The rules of a table, in order. -/
structure TableRule where
  table : String
  rules : List Rule
deriving Repr

open Checked

namespace Violation

/-- Reads a number that is not negative. -/
def limitReading : Reading Nat := fun value =>
  map Int.toNat (require (fun number => decide (0 ≤ number)) .atLeast (Reading.wholeNumber value))

/-- Reads what is done about a violated rule. -/
def reading : Reading Violation :=
  Reading.record fun fields =>
    mk <$> fields.required ["column"] Reading.text <*> fields.required ["limit"] limitReading <*>
      Fields.others ["column", "limit"] fields

/-- What is done about a violated rule, as data. -/
def toValue (violation : Violation) : Value :=
  .record ([("column", .text violation.column), ("limit", .int violation.limit)] ++
    violation.others)

end Violation

namespace Rule

/-- Reads a rule. -/
def reading : Reading Rule :=
  Reading.record fun fields =>
    mk <$> fields.required ["ruleName", "rule_name"] Reading.text <*>
      fields.required ["conditions"] ConditionTree.reading <*>
      fields.required ["error"] Violation.reading

/-- A rule as data. -/
def toValue (style : NameStyle) (rule : Rule) : Value :=
  .record [(style.pick "ruleName" "rule_name", .text rule.name),
    ("conditions", rule.conditions.toValue), ("error", rule.violation.toValue)]

end Rule

namespace TableRule

/-- Whether the names of rules are distinct. -/
def haveDistinctNames (rules : List Rule) : Bool :=
  decide (rules.map Rule.name).Nodup

/-- Reads the rules of a table. -/
def reading : Reading TableRule :=
  Reading.record fun fields =>
    mk <$> fields.required ["table"] Reading.text <*>
      fields.defaulted ["details"] [] fun value =>
        require haveDistinctNames .assertion (Reading.items Rule.reading value)

/-- The rules of a table as data. -/
def toValue (style : NameStyle) (rule : TableRule) : Value :=
  .record [("table", .text rule.table), ("details", .list (rule.rules.map (Rule.toValue style)))]

end TableRule

end QueryDesk
