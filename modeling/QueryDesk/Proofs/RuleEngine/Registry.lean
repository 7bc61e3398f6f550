/-
**Engines in sessions: every operator a rule uses is there.**

A rule is only registered when the engine knows all its operators, and operators are replaced but
never taken away. So however a session goes, no rule is ever run with an operator the engine does
not know, and the rules of an engine are those it has accepted, in the order they came.

* `Engine.IsRegistered` — the engine knows the operators of all its rules, at any depth.
* `Engine.isRegistered_step`, `Engine.isRegistered_after` — one step keeps this,
  and by induction a session.
* `Engine.register_of_knows`, `Engine.register_of_not_knows` — what becomes of a rule that is added;
  `EngineReport.ofVerdicts_map` — how verdicts are sorted.
* `Engine.rules_step`, `Engine.rules_after` — one step puts the rule it adds, if the engine accepts
  it, behind the others; by induction the rules of a session are the accepted ones.
* `Engine.sessions_keep_registry` — what holds of every engine a session leads to: its rules are the
  accepted ones and have their operators, a refused step changes nothing, and a run sorts all rules
  by their verdicts or fails in a test.
-/

import Mathlib.Logic.Basic
import QueryDesk.Rule.EngineSession
import QueryDesk.Proofs.RuleEngine.Evaluation

namespace QueryDesk

namespace Engine

/-! ### Operators by name -/

/-- The names of the operators an engine knows. -/
def names (engine : Engine) : List String := engine.operators.map Prod.fst

/-- An engine knows all operators of a tree. -/
def Knows (engine : Engine) (tree : ConditionTree) : Prop :=
  ∀ name ∈ tree.operators, name ∈ engine.names

/-- An engine knows all operators of its rules. -/
def IsRegistered (engine : Engine) : Prop := ∀ rule ∈ engine.rules, engine.Knows rule.conditions

theorem mem_names_putOperator (name other : String) (test : OperatorTest) (table : OperatorTable) :
    other ∈ (putOperator name test table).map Prod.fst ↔
      other = name ∨ other ∈ table.map Prod.fst := by
  induction table with
  | nil => simp [putOperator]
  | cons entry rest ih =>
    rw [putOperator]
    split
    · rename_i same
      simp [same]
    · rw [List.map_cons, List.mem_cons, ih, List.map_cons, List.mem_cons]
      exact or_left_comm

theorem lookup_eq_none_iff (engine : Engine) (name : String) :
    engine.operators.lookup name = none ↔ name ∉ engine.names := by
  rw [List.lookup_eq_none_iff, names, List.mem_map]
  constructor
  · rintro differs ⟨entry, inside, rfl⟩
    exact absurd (differs entry inside) (by simp)
  · exact fun absent entry inside => bne_iff_ne.2 fun same => absent ⟨entry, inside, same.symm⟩

/-! ### One step -/

theorem mem_unknownOperators (engine : Engine) (tree : ConditionTree) (name : String) :
    name ∈ engine.unknownOperators tree ↔ name ∈ tree.operators ∧ name ∉ engine.names := by
  rw [unknownOperators, List.mem_mergeSort, List.mem_eraseDups, List.mem_filter,
    Option.isNone_iff_eq_none, lookup_eq_none_iff]

theorem unknownOperators_eq_nil_iff (engine : Engine) (tree : ConditionTree) :
    engine.unknownOperators tree = [] ↔ engine.Knows tree := by
  rw [List.eq_nil_iff_forall_not_mem]
  refine forall_congr' fun name => ?_
  rw [mem_unknownOperators, not_and, not_not]

/-- A rule with known operators is put behind the others. -/
theorem register_of_knows {engine : Engine} {rule : EngineRule}
    (known : engine.Knows rule.conditions) :
    engine.register rule =
      ({ engine with rules := engine.rules ++ [rule] }, .ok (.added rule)) := by
  rw [register, addRule, (unknownOperators_eq_nil_iff engine rule.conditions).2 known]

/-- A rule with an unknown operator is refused with the names of all unknown ones. -/
theorem register_of_not_knows {engine : Engine} {rule : EngineRule}
    (unknown : ¬ engine.Knows rule.conditions) :
    engine.register rule =
      (engine, .error (.unknownOperators rule.name (engine.unknownOperators rule.conditions))) := by
  rw [register, addRule]
  split
  · rename_i added
    split at added
    · rename_i none_unknown
      exact absurd ((unknownOperators_eq_nil_iff engine rule.conditions).1 none_unknown) unknown
    · cases added
  · rename_i refused
    split at refused
    · cases refused
    · cases refused
      rfl

theorem isRegistered_addOperator {engine : Engine} (registered : engine.IsRegistered)
    (name : String) (test : OperatorTest) : (engine.addOperator name test).IsRegistered :=
  fun rule inside operator used =>
    (mem_names_putOperator name operator test engine.operators).2
      (.inr (registered rule inside operator used))

theorem isRegistered_register {engine : Engine} (registered : engine.IsRegistered)
    (rule : EngineRule) : (engine.register rule).1.IsRegistered := by
  by_cases known : engine.Knows rule.conditions
  · rw [register_of_knows known]
    intro other inside
    rcases List.mem_append.1 inside with before | last
    · exact registered other before
    · exact List.mem_singleton.1 last ▸ known
  · rw [register_of_not_knows known]
    exact registered

/-- **One step keeps the registry complete.** -/
theorem isRegistered_step {engine : Engine} (registered : engine.IsRegistered) (one : EngineStep) :
    (engine.step one).1.IsRegistered := by
  cases one with
  | addOperator name test => exact isRegistered_addOperator registered name test
  | addRule name conditions params =>
    rw [step]
    split
    · exact isRegistered_register registered _
    · exact registered
  | addTree rule => exact isRegistered_register registered rule
  | run facts => exact registered

/-- **A session keeps the registry complete**, by induction on its steps. -/
theorem isRegistered_after (steps : List EngineStep) :
    ∀ {engine : Engine}, engine.IsRegistered → (engine.after steps).IsRegistered := by
  induction steps with
  | nil => exact id
  | cons one rest ih => exact fun registered => ih (isRegistered_step registered one)

theorem fst_register_of_error {engine : Engine} {rule : EngineRule} {failure : Failure}
    (refused : (engine.register rule).2 = .error failure) : (engine.register rule).1 = engine := by
  by_cases known : engine.Knows rule.conditions
  · rw [register_of_knows known] at refused
    cases refused
  · rw [register_of_not_knows known]

/-- **A refused step changes nothing.** -/
theorem fst_step_of_error {engine : Engine} {one : EngineStep} {failure : Failure}
    (refused : (engine.step one).2 = .error failure) : (engine.step one).1 = engine := by
  cases one with
  | addOperator name test => cases refused
  | addRule name conditions params =>
    rw [step] at refused ⊢
    split at refused
    · exact fst_register_of_error refused
    · rfl
  | addTree rule => exact fst_register_of_error refused
  | run facts => rfl

theorem snd_register_eq_error_iff (engine : Engine) (rule : EngineRule) :
    (∃ failure, (engine.register rule).2 = .error failure) ↔ ¬ engine.Knows rule.conditions := by
  by_cases known : engine.Knows rule.conditions
  · rw [register_of_knows known]
    simp [known]
  · rw [register_of_not_knows known]
    simp [known]

/-- A rule from data is refused when the data is no tree or has an unknown operator. -/
theorem snd_step_addRule_eq_error_iff (engine : Engine) (name : String) (conditions : Value)
    (params : List (Value × Value)) :
    (∃ failure, (engine.step (.addRule name conditions params)).2 = .error failure) ↔
      ∀ tree, ConditionTree.read conditions = .ok tree → ¬ engine.Knows tree := by
  rw [step, ruleOf]
  cases ConditionTree.read conditions with
  | error failure => exact iff_of_true ⟨failure, rfl⟩ nofun
  | ok tree =>
    refine (snd_register_eq_error_iff engine ⟨name, tree, params⟩).trans ?_
    simp

/-! ### The rules of a session -/

/-- The rule that a step asks for, if its conditions can be read. -/
def requestedRule? : EngineStep → Option EngineRule
  | .addRule name conditions params => (ruleOf name conditions params).toOption
  | .addTree rule => some rule
  | .addOperator _ _ => none
  | .run _ => none

/-- The rule that a step asks for, if the engine does not refuse the step. -/
def acceptedRule? (engine : Engine) (one : EngineStep) : Option EngineRule :=
  (engine.step one).2.toOption.bind fun _ => requestedRule? one

/-- The rules that are accepted in the course of a session, in the order of its steps. -/
def acceptedRules (engine : Engine) : List EngineStep → List EngineRule
  | [] => []
  | one :: rest => (engine.acceptedRule? one).toList ++ acceptedRules (engine.step one).1 rest

/-- An accepted rule goes behind the others, and a refused one goes nowhere. -/
theorem rules_register (engine : Engine) (rule : EngineRule) :
    (engine.register rule).1.rules =
      engine.rules ++ ((engine.register rule).2.toOption.bind fun _ => some rule).toList := by
  by_cases known : engine.Knows rule.conditions
  · rw [register_of_knows known]
    rfl
  · rw [register_of_not_knows known]
    exact (List.append_nil _).symm

/-- **An accepted rule is put behind the others**; no other step changes the rules. -/
theorem rules_step (engine : Engine) (one : EngineStep) :
    (engine.step one).1.rules = engine.rules ++ (engine.acceptedRule? one).toList := by
  cases one with
  | addOperator name test => exact (List.append_nil _).symm
  | addRule name conditions params =>
    rw [acceptedRule?, step, requestedRule?]
    cases ruleOf name conditions params with
    | ok rule => exact rules_register engine rule
    | error failure => exact (List.append_nil _).symm
  | addTree rule => exact rules_register engine rule
  | run facts =>
    rw [acceptedRule?, requestedRule?, Option.bind_fun_none]
    exact (List.append_nil _).symm

/-- **The rules after a session** are those before it and the accepted ones, by
induction on its steps. -/
theorem rules_after (steps : List EngineStep) :
    ∀ engine : Engine, (engine.after steps).rules = engine.rules ++ engine.acceptedRules steps := by
  induction steps with
  | nil => exact fun engine => (List.append_nil _).symm
  | cons one rest ih =>
    intro engine
    calc ((engine.step one).1.after rest).rules
        = (engine.step one).1.rules ++ (engine.step one).1.acceptedRules rest := ih _
      _ = engine.rules ++ engine.acceptedRules (one :: rest) := by
        rw [rules_step, List.append_assoc, acceptedRules]

end Engine

/-! ### Runs -/

/-- By induction on the verdicts: they are told apart in order. -/
theorem EngineReport.foldl_add (verdicts : List EngineVerdict) :
    ∀ report : EngineReport, verdicts.foldl add report =
      ⟨report.successes ++ verdicts.filter EngineVerdict.holds,
        report.failures ++ verdicts.filter fun verdict => !verdict.holds⟩ := by
  induction verdicts with
  | nil => simp
  | cons verdict rest ih =>
    intro report
    rw [List.foldl_cons, ih]
    cases held : verdict.holds <;> simp [add, held]

/-- Sorted verdicts stay in the order of their rules. -/
theorem EngineReport.ofVerdicts_map (rules : List EngineRule) (verdict : EngineRule → Bool) :
    ofVerdicts (rules.map fun rule => ⟨rule, verdict rule⟩) =
      ⟨(rules.filter verdict).map (⟨·, true⟩),
        (rules.filter fun rule => !verdict rule).map (⟨·, false⟩)⟩ := by
  rw [ofVerdicts, foldl_add, List.nil_append, List.nil_append, List.filter_map, List.filter_map]
  congr 1
  · refine List.map_congr_left fun rule inside => ?_
    have held : verdict rule = true := (List.mem_filter.1 inside).2
    rw [held]
  · refine List.map_congr_left fun rule inside => ?_
    have failed : (!verdict rule) = true := (List.mem_filter.1 inside).2
    rw [Bool.not_eq_true'] at failed
    rw [failed]

namespace Engine

variable {engine : Engine} {facts : Facts}

/-- **A completed run sorts all rules by their verdicts.** -/
theorem report_eq_ok {report : EngineReport} (completed : engine.report facts = .ok report) :
    ∃ verdict : EngineRule → Bool,
      (∀ rule ∈ engine.rules,
        rule.conditions.holds engine.operators facts = .ok (verdict rule)) ∧
      report.successes = (engine.rules.filter verdict).map (⟨·, true⟩) ∧
      report.failures = (engine.rules.filter fun rule => !verdict rule).map (⟨·, false⟩) := by
  unfold Engine.report run at completed
  cases found : engine.verdictsOf facts engine.rules with
  | error failure => rw [found] at completed; cases completed
  | ok verdicts =>
    rw [found] at completed
    obtain ⟨decides, rfl⟩ := (verdictsOf_eq_ok_iff engine facts engine.rules).1 found
    obtain rfl := Except.ok.inj completed
    rw [EngineReport.ofVerdicts_map]
    exact ⟨EngineRule.isMet engine.operators facts,
      fun rule inside => (decides rule inside).holds_eq,
      rfl, rfl⟩

/-- A run is completed when every rule has a verdict. -/
theorem exists_report (decides : ∀ rule ∈ engine.rules, rule.Decides engine.operators facts) :
    ∃ report, engine.report facts = .ok report := by
  unfold report run
  rw [(verdictsOf_eq_ok_iff engine facts engine.rules).2 ⟨decides, rfl⟩]
  exact ⟨_, rfl⟩

/-- **A run never fails for want of an operator**: it fails in a test that was found. -/
theorem report_eq_error (registered : engine.IsRegistered) {failure : Failure}
    (failed : engine.report facts = .error failure) :
    ∃ rule ∈ engine.rules, ∃ leaf ∈ rule.conditions.leaves, ∃ test,
      engine.operators.lookup leaf.operator = some test ∧
        test (facts.lookup leaf.fact) (leaf.comparand facts) = .error failure := by
  unfold report run at failed
  cases found : engine.verdictsOf facts engine.rules with
  | ok verdicts => rw [found] at failed; cases failed
  | error cause =>
    rw [found] at failed
    obtain rfl : cause = failure := Except.error.inj failed
    obtain ⟨before, rule, behind, parts, -, broken⟩ :=
      (verdictsOf_eq_error_iff engine facts engine.rules).1 found
    have inside : rule ∈ engine.rules := by simp [parts]
    obtain ⟨leaf, reached, faulty⟩ :=
      (Condition.holds_eq_error_iff engine.operators facts cause rule.conditions.toCondition).1
        broken
    have used : leaf ∈ rule.conditions.leaves := reached.mem_leaves
    refine ⟨rule, inside, leaf, used, ?_⟩
    rw [Leaf.holds] at faulty
    cases known : engine.operators.lookup leaf.operator with
    | none =>
      exact absurd (registered rule inside leaf.operator (List.mem_map_of_mem used))
        ((lookup_eq_none_iff engine leaf.operator).1 known)
    | some test =>
      rw [known] at faulty
      exact ⟨test, rfl, faulty⟩

/-! ### Sessions -/

/-- **What holds of every engine a session leads to.** Its rules are the accepted ones, in
order, and a rule with known operators is accepted and put behind them. All operators of its
rules are there, at any depth; a refused step, such as a rule that is no tree or has an unknown
operator, leaves the engine as it is; a completed run sorts all rules by their verdicts, in
order, and every run in which all rules have verdicts is completed; one that fails does so in
the test of an operator that was found. -/
theorem sessions_keep_registry (steps : List EngineStep) :
    let engine := Engine.initial.after steps
    engine.rules = Engine.initial.acceptedRules steps ∧
    (∀ rule : EngineRule,
      (∀ operator ∈ rule.conditions.operators, operator ∈ engine.operators.map Prod.fst) →
      engine.step (.addTree rule) =
        ({ engine with rules := engine.rules ++ [rule] }, .ok (.added rule))) ∧
    (∀ name conditions params tree, ConditionTree.read conditions = .ok tree →
      engine.step (.addRule name conditions params) =
        engine.step (.addTree ⟨name, tree, params⟩)) ∧
    (∀ rule ∈ engine.rules, ∀ leaf ∈ rule.conditions.leaves,
      leaf.operator ∈ engine.operators.map Prod.fst) ∧
    (∀ one failure, (engine.step one).2 = .error failure → (engine.step one).1 = engine) ∧
    (∀ name conditions params,
      (∃ failure, (engine.step (.addRule name conditions params)).2 = .error failure) ↔
        ∀ tree, ConditionTree.read conditions = .ok tree →
          ∃ operator ∈ tree.operators, operator ∉ engine.operators.map Prod.fst) ∧
    ∀ facts,
      ((∀ rule ∈ engine.rules, ∃ verdict,
          rule.conditions.holds engine.operators facts = .ok verdict) ↔
        ∃ report, engine.report facts = .ok report) ∧
      (∀ report, engine.report facts = .ok report → ∃ verdict : EngineRule → Bool,
        (∀ rule ∈ engine.rules,
          rule.conditions.holds engine.operators facts = .ok (verdict rule)) ∧
        report.successes = (engine.rules.filter verdict).map (⟨·, true⟩) ∧
        report.failures = (engine.rules.filter fun rule => !verdict rule).map (⟨·, false⟩)) ∧
      ∀ failure, engine.report facts = .error failure →
        ∃ rule ∈ engine.rules, ∃ leaf ∈ rule.conditions.leaves, ∃ test,
          engine.operators.lookup leaf.operator = some test ∧
            test (facts.lookup leaf.fact) (leaf.comparand facts) = .error failure := by
  intro engine
  have registered : engine.IsRegistered := isRegistered_after steps nofun
  refine ⟨rules_after steps Engine.initial, ?_, ?_, ?_, fun one failure => fst_step_of_error, ?_,
    fun facts => ⟨⟨exists_report, ?_⟩, ?_, ?_⟩⟩
  · exact fun rule known => register_of_knows known
  · intro name conditions params tree readable
    rw [step, ruleOf, readable]
    rfl
  · exact fun rule inside leaf used =>
      registered rule inside leaf.operator (List.mem_map_of_mem used)
  · intro name conditions params
    rw [snd_step_addRule_eq_error_iff]
    simp only [Knows, not_forall, exists_prop, names]
  · rintro ⟨report, completed⟩ rule inside
    obtain ⟨verdict, found, -⟩ := report_eq_ok completed
    exact ⟨verdict rule, found rule inside⟩
  · exact fun report => report_eq_ok
  · exact fun failure => report_eq_error registered

end Engine

end QueryDesk
