/-
**Sessions: an engine given operators and rules and run, one step after another.**

* `EngineStep` — an operator put under a name, a rule added from data or with its conditions read
  before, a run against facts.
* `Engine.step`, `Engine.after` — what one step does and answers, and the engine all steps lead to.
  A step that is refused leaves the engine as it is.
-/

import QueryDesk.Rule.Engine

namespace QueryDesk

/-- A step of a session with an engine. -/
inductive EngineStep where
  /-- A test put under a name, which may be in use. -/
  | addOperator (name : String) (test : OperatorTest)
  /-- A rule whose conditions are data. -/
  | addRule (name : String) (conditions : Value) (params : List (Value × Value))
  /-- A rule whose conditions have been read. -/
  | addTree (rule : EngineRule)
  /-- A run against facts. -/
  | run (facts : Facts)

/-- What a step answers. -/
inductive EngineAnswer where
  /-- The step is done. -/
  | done
  /-- The rule that was added. -/
  | added (rule : EngineRule)
  /-- What the rules say. -/
  | said (report : EngineReport)
deriving Repr

namespace Engine

/-- The rule with conditions from data. -/
def ruleOf (name : String) (conditions : Value) (params : List (Value × Value)) :
    Except Failure EngineRule :=
  (ConditionTree.read conditions).map fun tree => ⟨name, tree, params⟩

/-- The engine after adding a rule, and the answer: an engine that refuses the
rule stays as it is. -/
def register (engine : Engine) (rule : EngineRule) : Engine × Except Failure EngineAnswer :=
  match engine.addRule rule with
  | .ok next => (next, .ok (.added rule))
  | .error failure => (engine, .error failure)

/-- The engine after a step, and the answer. -/
def step (engine : Engine) : EngineStep → Engine × Except Failure EngineAnswer
  | .addOperator name test => (engine.addOperator name test, .ok .done)
  | .addRule name conditions params =>
    match ruleOf name conditions params with
    | .ok rule => engine.register rule
    | .error failure => (engine, .error failure)
  | .addTree rule => engine.register rule
  | .run facts => (engine, (engine.report facts).map .said)

/-- The engine after steps. -/
def after (engine : Engine) (steps : List EngineStep) : Engine :=
  steps.foldl (fun reached one => (reached.step one).1) engine

end Engine

end QueryDesk
