/-
**Rules that are run against facts.**

* `Condition.holds` — the verdict of a condition: a group of all stops at the first condition that
  fails, a group of any at the first that holds.
* `ConditionTree.factValues` — the facts a verdict looks at, in the order they are first named.
* `Engine` — operators by name and named rules; a rule with an operator the
  engine does not know is refused.
* `Engine.run`, `Engine.report` — the verdicts of all rules in order, and the same sorted
  into successes and failures.
-/

import QueryDesk.Rule.Operator
import QueryDesk.Rule.ConditionReading

namespace QueryDesk

/-- The values that rules are run against, by name. -/
abbrev Facts := List (String × Value)

namespace Leaf

/-- What a leaf compares its fact with: its value, or the fact that its value names. -/
def comparand (leaf : Leaf) (facts : Facts) : Value :=
  match leaf.valueFact? with
  | some name => (facts.lookup name).getD .null
  | none => leaf.value

/-- The verdict of a leaf. -/
def holds (operators : OperatorTable) (facts : Facts) (leaf : Leaf) : Except Failure Bool :=
  match operators.lookup leaf.operator with
  | some test => test (facts.lookup leaf.fact) (leaf.comparand facts)
  | none => .error (.unknownKey leaf.operator)

/-- The names of the facts that a leaf looks at. -/
def factNames (leaf : Leaf) : List String := leaf.fact :: leaf.valueFact?.toList

end Leaf

namespace Condition

mutual

/-- The verdict of a condition. -/
def holds (operators : OperatorTable) (facts : Facts) : Condition → Except Failure Bool
  | .leaf comparison => comparison.holds operators facts
  | .group .all children => allHold operators facts children
  | .group .any children => anyHolds operators facts children

/-- Whether all conditions hold; those behind the first that fails are not looked at. -/
def allHold (operators : OperatorTable) (facts : Facts) : List Condition → Except Failure Bool
  | [] => .ok true
  | child :: rest => do
    if ← holds operators facts child then allHold operators facts rest else pure false

/-- Whether some condition holds; those behind the first that holds are not looked at. -/
def anyHolds (operators : OperatorTable) (facts : Facts) : List Condition → Except Failure Bool
  | [] => .ok false
  | child :: rest => do
    if ← holds operators facts child then pure true else anyHolds operators facts rest

end

end Condition

namespace ConditionTree

/-- The verdict of a tree. -/
def holds (operators : OperatorTable) (facts : Facts) (tree : ConditionTree) :
    Except Failure Bool :=
  tree.toCondition.holds operators facts

/-- The names of the facts a tree looks at, in the order they are first named. -/
def factNames (tree : ConditionTree) : List String :=
  (tree.leaves.flatMap Leaf.factNames).eraseDups

/-- The facts a tree looks at; absent ones are nothing. -/
def factValues (tree : ConditionTree) (facts : Facts) : List (String × Value) :=
  tree.factNames.map fun name => (name, (facts.lookup name).getD .null)

end ConditionTree

/-- A rule of an engine, with what is handed back with every verdict. -/
structure EngineRule where
  name : String
  conditions : ConditionTree
  params : List (Value × Value)
deriving Repr

/-- Operators by name and the rules that use them, in the order they were added. -/
structure Engine where
  operators : OperatorTable
  rules : List EngineRule

/-- The verdict of a rule. -/
structure EngineVerdict where
  rule : EngineRule
  holds : Bool
deriving Repr

/-- The verdicts of rules in order, those that hold apart from those that do not. -/
structure EngineReport where
  successes : List EngineVerdict
  failures : List EngineVerdict
deriving Repr

namespace EngineReport

/-- The report with one more verdict. -/
def add (report : EngineReport) (verdict : EngineVerdict) : EngineReport :=
  if verdict.holds then { report with successes := report.successes ++ [verdict] }
  else { report with failures := report.failures ++ [verdict] }

/-- Verdicts sorted one after another. -/
def ofVerdicts (verdicts : List EngineVerdict) : EngineReport := verdicts.foldl add ⟨[], []⟩

end EngineReport

namespace Engine

/-- An engine with the built-in operators and no rules. -/
def initial : Engine := ⟨Operator.builtIn, []⟩

/-- Puts an operator under a name; a name that is there keeps its place. -/
def putOperator (name : String) (test : OperatorTest) : OperatorTable → OperatorTable
  | [] => [(name, test)]
  | (other, old) :: rest =>
    if other = name then (other, test) :: rest else (other, old) :: putOperator name test rest

/-- The engine with an operator under a name. -/
def addOperator (engine : Engine) (name : String) (test : OperatorTest) : Engine :=
  { engine with operators := putOperator name test engine.operators }

/-- The engine with a built-in operator under a name. -/
def addBuiltIn (engine : Engine) (name builtIn : String) : Except Failure Engine :=
  match Operator.ofName? builtIn with
  | some operator => .ok (engine.addOperator name operator.holds)
  | none => .error (.unknownKey builtIn)

/-- The operators of a tree that the engine does not know, each once, by code points. -/
def unknownOperators (engine : Engine) (tree : ConditionTree) : List String :=
  ((tree.operators.filter fun name => (engine.operators.lookup name).isNone).eraseDups).mergeSort
    fun a b => decide (a ≤ b)

/-- The engine with one more rule, all of whose operators it has to know. -/
def addRule (engine : Engine) (rule : EngineRule) : Except Failure Engine :=
  match engine.unknownOperators rule.conditions with
  | [] => .ok { engine with rules := engine.rules ++ [rule] }
  | unknown => .error (.unknownOperators rule.name unknown)

/-- The verdict of one rule. -/
def verdictOf (engine : Engine) (facts : Facts) (rule : EngineRule) :
    Except Failure EngineVerdict :=
  (rule.conditions.holds engine.operators facts).map (EngineVerdict.mk rule)

/-- The verdicts of rules, one after another. -/
def verdictsOf (engine : Engine) (facts : Facts) : List EngineRule →
    Except Failure (List EngineVerdict)
  | [] => .ok []
  | rule :: rest => do
    let first ← engine.verdictOf facts rule
    let others ← engine.verdictsOf facts rest
    pure (first :: others)

/-- The verdicts of all rules. -/
def run (engine : Engine) (facts : Facts) : Except Failure (List EngineVerdict) :=
  engine.verdictsOf facts engine.rules

/-- The verdicts of all rules, sorted. -/
def report (engine : Engine) (facts : Facts) : Except Failure EngineReport :=
  (engine.run facts).map EngineReport.ofVerdicts

end Engine

end QueryDesk
