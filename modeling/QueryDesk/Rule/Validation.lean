/-
**Result sets checked against the rules of a table.**

* `ResultSet.checkRows` — the rows one after another: each rule that holds for a row marks the
  column it names, until it has marked as many rows as its limit allows. When all rules have reached
  their limits, later rows are not looked at.
* `ResultSet.validate` — the check of a whole set. Marks of an earlier check are removed first.
-/

import QueryDesk.Rule.Engine
import QueryDesk.ResultSet.Basic

namespace QueryDesk

/-- A rule with the number of rows it has marked. -/
structure CountedRule where
  rule : Rule
  marked : Nat
deriving Repr

namespace CountedRule

/-- Whether a rule has marked as many rows as it may. -/
def isExhausted (counted : CountedRule) : Bool :=
  decide (counted.rule.violation.limit ≤ counted.marked)

end CountedRule

namespace Rule

/-- The rule as a rule of an engine. -/
def toEngineRule (rule : Rule) : EngineRule := ⟨rule.name, rule.conditions, []⟩

/-- The mark of a violation. -/
def violationMark (rule : Rule) (facts : Facts) : Mark :=
  ⟨.violated, some [("name", .text rule.name), ("message", .text ("Error: " ++ rule.name)),
    ("condition_values", .record (rule.conditions.factValues facts))]⟩

end Rule

/-- A row after a check, with the rules and whether none of them holds for it. -/
structure CheckedRow where
  row : Row
  rules : List CountedRule
  isClean : Bool
deriving Repr

/-- Marks a row for the rules that hold, given each rule's verdict. -/
def markRow (facts : Facts) : List (CountedRule × Bool) → Row → CheckedRow
  | [], row => ⟨row, [], true⟩
  | (counted, holds) :: rest, row =>
    if holds then
      if counted.isExhausted then
        let others := markRow facts rest row
        ⟨others.row, counted :: others.rules, false⟩
      else
        let marked := row.push counted.rule.violation.column (counted.rule.violationMark facts)
        let others := markRow facts rest marked
        ⟨others.row, { counted with marked := counted.marked + 1 } :: others.rules, false⟩
    else
      let others := markRow facts rest row
      ⟨others.row, counted :: others.rules, others.isClean⟩

/-- The outcome of a check: the rows, and whether no rule holds for any row, unless a
rule could not be evaluated. -/
structure CheckOutcome where
  rows : List Row
  verdict : Except Failure Bool

namespace ResultSet

/-- The verdicts of rules for the facts of a row. -/
def verdicts (engine : Engine) (facts : Facts) (rules : List CountedRule) :
    Except Failure (List (CountedRule × Bool)) :=
  (engine.run facts).map fun found => rules.zip (found.map EngineVerdict.holds)

/-- Checks rows one after another. -/
def checkRows (set : ResultSet) (engine : Engine) : List CountedRule → List Row → CheckOutcome
  | _, [] => ⟨[], .ok true⟩
  | rules, row :: rest =>
    let facts := set.facts row
    match verdicts engine facts rules with
    | .error failure => ⟨row :: rest, .error failure⟩
    | .ok found =>
      let checked := markRow facts found row
      if checked.rules.all CountedRule.isExhausted then
        ⟨checked.row :: rest, .ok checked.isClean⟩
      else
        let others := checkRows set engine checked.rules rest
        ⟨checked.row :: others.rows, others.verdict.map (checked.isClean && ·)⟩

/-- The engine for rules, if it knows all their operators. -/
def engineFor (rules : List Rule) : Except Failure Engine :=
  rules.foldlM (fun engine rule => engine.addRule rule.toEngineRule) Engine.initial

/-- The set with the rules of its table and without the marks of an earlier check. -/
def prepared (set : ResultSet) (rule : TableRule) : ResultSet :=
  { set.clear (some .violated) with origin := { set.origin with tableRule := some rule } }

/-- Checks a set: the set afterwards, and whether no row violates a rule, or why
this could not be found out. -/
def validate (set : ResultSet) (rule : TableRule) : ResultSet × Except Failure Bool :=
  let ready := set.prepared rule
  match engineFor rule.rules with
  | .error failure => (ready, .error failure)
  | .ok engine =>
    let outcome := ready.checkRows engine (rule.rules.map fun one => ⟨one, 0⟩) ready.rows
    ({ ready with rows := outcome.rows }, outcome.verdict)

end ResultSet

end QueryDesk
