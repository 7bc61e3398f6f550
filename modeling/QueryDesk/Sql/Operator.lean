/-
**The SQL words of condition operators.**

* `Operator.sql?` — the comparison an operator is written as; operators without one cannot be
  compiled.
* `Operator.takesNoValue`, `Operator.takesList` — the operators that bind nothing, and those whose
  value is a list.
-/

import QueryDesk.Failure

namespace QueryDesk.Sql.Operator

/-- The SQL words of the operators. -/
def words : List (String × String) := [
  ("equal", "="),
  ("notEqual", "<>"),
  ("lessThan", "<"),
  ("lessThanInclusive", "<="),
  ("greaterThan", ">"),
  ("greaterThanInclusive", ">="),
  ("in", "IN"),
  ("notIn", "NOT IN"),
  ("between", "BETWEEN"),
  ("isNull", "IS NULL"),
  ("isNotNull", "IS NOT NULL"),
  ("isNil", "IS NULL"),
  ("isNotNil", "IS NOT NULL"),
  ("startsWith", "LIKE"),
  ("endsWith", "LIKE")]

/-- The SQL words of an operator. -/
def sql? (operator : String) : Except Failure String :=
  match words.lookup operator with
  | some word => .ok word
  | none => .error (.noSqlForm operator)

/-- Whether an operator is complete without a value. -/
def takesNoValue (operator : String) : Bool :=
  ["isNull", "isNotNull", "isNil", "isNotNil"].contains operator

/-- Whether an operator's value is a list. -/
def takesList (operator : String) : Bool := ["between", "in", "notIn"].contains operator

end QueryDesk.Sql.Operator
