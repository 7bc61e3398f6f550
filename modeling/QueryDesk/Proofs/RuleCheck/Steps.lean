/-
**The check of a result set, row by row.**

A rule counts the rows it has marked. The invariant of the check: behind the rows passed, the count
of every rule is the number of passed rows that violate it, cut at the rule's limit (`countsAfter`).

* `engineFor_eq`, `verdicts_eq` — the engine of rules with built-in operators, and its verdicts;
  `foldlM_addRule_stops` — other rules are refused at the first one with an unknown operator.
* `markRow_eq` — what one row gets and what becomes of the counts; `map_advance_countsAfter` —
  the counts keep the invariant.
* `checkRows_cons` — one step of the check from the invariant.
* `validate_eq` — the check of a whole set starts from the invariant;
  `validate_of_unknown` — unless a rule is refused.
-/

import QueryDesk.Rule.Validation
import QueryDesk.Proofs.RowMarks

namespace QueryDesk

/-! ### Rules and rows -/

namespace Rule

/-- All operators of a rule are built in. -/
def UsesBuiltIns (rule : Rule) : Prop :=
  ∀ name ∈ rule.conditions.operators, (Operator.ofName? name).isSome

/-- Whether the conditions of a rule hold for the facts of a row. -/
def isViolatedBy (rule : Rule) (facts : Facts) : Bool :=
  match rule.conditions.holds Operator.builtIn facts with
  | .ok holds => holds
  | .error _ => false

/-- A rule has a verdict on facts. -/
def Decides (rule : Rule) (facts : Facts) : Prop :=
  ∃ holds, rule.conditions.holds Operator.builtIn facts = .ok holds

theorem isViolatedBy_iff (rule : Rule) (facts : Facts) :
    rule.isViolatedBy facts = true ↔ rule.conditions.holds Operator.builtIn facts = .ok true := by
  unfold isViolatedBy
  cases rule.conditions.holds Operator.builtIn facts <;> simp

theorem holds_of_decides {rule : Rule} {facts : Facts} (decides : rule.Decides facts) :
    rule.conditions.holds Operator.builtIn facts = .ok (rule.isViolatedBy facts) := by
  obtain ⟨holds, evaluated⟩ := decides
  simp [isViolatedBy, evaluated]

end Rule

namespace TableRule

/-- All operators of all rules are built in. -/
def UsesBuiltIns (table : TableRule) : Prop := ∀ rule ∈ table.rules, rule.UsesBuiltIns

/-- Every rule has a verdict on every row of a set. -/
def DecidesAll (table : TableRule) (set : ResultSet) : Prop :=
  ∀ row ∈ set.rows, ∀ rule ∈ table.rules, rule.Decides (set.facts row)

end TableRule

/-! ### The engine of rules -/

namespace Engine

/-- The engine of rules with built-in operators. -/
def ofRules (rules : List Rule) : Engine := ⟨Operator.builtIn, rules.map Rule.toEngineRule⟩

/-- The operators that an engine with built-in ones does not know. -/
theorem mem_unknownOperators_ofRules (rules : List Rule) (tree : ConditionTree) (name : String) :
    name ∈ (ofRules rules).unknownOperators tree ↔
      name ∈ tree.operators ∧ Operator.ofName? name = none := by
  rw [unknownOperators, List.mem_mergeSort, List.mem_eraseDups, List.mem_filter]
  simp [ofRules, Operator.lookup_builtIn]

theorem unknownOperators_eq_nil_iff_usesBuiltIns (rules : List Rule) (rule : Rule) :
    (ofRules rules).unknownOperators rule.conditions = [] ↔ rule.UsesBuiltIns := by
  rw [List.eq_nil_iff_forall_not_mem]
  refine forall_congr' fun name => ?_
  rw [mem_unknownOperators_ofRules, not_and, ← ne_eq, ← Option.isSome_iff_ne_none]

/-- A rule with built-in operators is added behind the others. -/
theorem addRule_ofRules (rules : List Rule) {rule : Rule} (known : rule.UsesBuiltIns) :
    (ofRules rules).addRule rule.toEngineRule = .ok (ofRules (rules ++ [rule])) := by
  have unknown : (ofRules rules).unknownOperators rule.toEngineRule.conditions = [] :=
    (unknownOperators_eq_nil_iff_usesBuiltIns rules rule).2 known
  unfold addRule
  rw [unknown]
  simp [ofRules]

/-- By induction on the rules: all of them are added in order. -/
theorem foldlM_addRule (rules : List Rule) (known : ∀ rule ∈ rules, rule.UsesBuiltIns) :
    ∀ added : List Rule, rules.foldlM (fun engine rule => engine.addRule rule.toEngineRule)
      (ofRules added) = .ok (ofRules (added ++ rules)) := by
  induction rules with
  | nil => intro added; simp [pure, Except.pure]
  | cons rule rest ih =>
    intro added
    rw [List.foldlM_cons, addRule_ofRules added (known rule List.mem_cons_self)]
    have others := ih (fun other member => known other (List.mem_cons_of_mem rule member))
      (added ++ [rule])
    rw [List.append_assoc, List.singleton_append] at others
    exact others

/-- A rule with an operator that is not built in is refused, with the names of
all such operators. -/
theorem addRule_ofRules_of_unknown (rules : List Rule) {rule : Rule}
    (unknown : ¬ rule.UsesBuiltIns) :
    (ofRules rules).addRule rule.toEngineRule =
      .error (.unknownOperators rule.name ((ofRules rules).unknownOperators rule.conditions)) := by
  rw [addRule]
  split
  · rename_i none_unknown
    exact absurd ((unknownOperators_eq_nil_iff_usesBuiltIns rules rule).1 none_unknown) unknown
  · rfl

/-- **Rules are refused at the first one with an operator that is not built in.** The induction is
on the rules, behind those that are added already. -/
theorem foldlM_addRule_stops {rules : List Rule} (unknown : ∃ rule ∈ rules, ¬ rule.UsesBuiltIns) :
    ∀ added : List Rule, ∃ before rule behind operators, rules = before ++ rule :: behind ∧
      (∀ earlier ∈ before, earlier.UsesBuiltIns) ∧
      (∀ name, name ∈ operators ↔ name ∈ rule.conditions.operators ∧ Operator.ofName? name = none) ∧
      operators ≠ [] ∧
      rules.foldlM (fun engine rule => engine.addRule rule.toEngineRule) (ofRules added) =
        .error (.unknownOperators rule.name operators) := by
  induction rules with
  | nil => exact fun _ => absurd unknown (by simp)
  | cons first rest ih =>
    intro added
    by_cases known : first.UsesBuiltIns
    · have later : ∃ rule ∈ rest, ¬ rule.UsesBuiltIns := by
        obtain ⟨rule, inside, missing⟩ := unknown
        rcases List.mem_cons.1 inside with rfl | inRest
        · exact absurd known missing
        · exact ⟨rule, inRest, missing⟩
      obtain ⟨before, rule, behind, operators, parts, earlier, names, some_name, refused⟩ :=
        ih later (added ++ [first])
      refine ⟨first :: before, rule, behind, operators, by rw [parts, List.cons_append],
        List.forall_mem_cons.2 ⟨known, earlier⟩, names, some_name, ?_⟩
      rw [List.foldlM_cons, addRule_ofRules added known]
      exact refused
    · refine ⟨[], first, rest, _, rfl, nofun, mem_unknownOperators_ofRules added first.conditions,
        ?_, ?_⟩
      · exact fun none_unknown =>
          known ((unknownOperators_eq_nil_iff_usesBuiltIns added first).1 none_unknown)
      · rw [List.foldlM_cons, addRule_ofRules_of_unknown added known]
        rfl

/-- Rules with built-in operators have an engine. -/
theorem engineFor_eq {rules : List Rule} (known : ∀ rule ∈ rules, rule.UsesBuiltIns) :
    ResultSet.engineFor rules = .ok (ofRules rules) := foldlM_addRule rules known []

/-- Rules that decide a row give a verdict each, in order. -/
theorem verdictsOf_eq (engine : Engine) (builtIn : engine.operators = Operator.builtIn)
    (facts : Facts) (rules : List Rule) (decides : ∀ rule ∈ rules, rule.Decides facts) :
    engine.verdictsOf facts (rules.map Rule.toEngineRule) =
      .ok (rules.map fun rule => ⟨rule.toEngineRule, rule.isViolatedBy facts⟩) := by
  induction rules with
  | nil => rfl
  | cons rule rest ih =>
    have first : engine.verdictOf facts rule.toEngineRule =
        .ok ⟨rule.toEngineRule, rule.isViolatedBy facts⟩ := by
      have holds := Rule.holds_of_decides (decides rule List.mem_cons_self)
      simp only [verdictOf, builtIn, Rule.toEngineRule, holds]
      rfl
    have others := ih fun other member => decides other (List.mem_cons_of_mem rule member)
    rw [List.map_cons, verdictsOf, first, others]
    rfl

end Engine

/-! ### Counts -/

namespace Rule

/-- The number of rows that violate a rule. -/
def violations (set : ResultSet) (rule : Rule) (rows : List Row) : Nat :=
  rows.countP fun row => rule.isViolatedBy (set.facts row)

/-- Whether the rows passed used up all a rule may mark. -/
def isSpent (set : ResultSet) (passed : List Row) (rule : Rule) : Bool :=
  decide (rule.violation.limit ≤ rule.violations set passed)

/-- Whether a rule marks a row behind the rows passed. -/
def marks (set : ResultSet) (passed : List Row) (row : Row) (rule : Rule) : Bool :=
  rule.isViolatedBy (set.facts row) && !rule.isSpent set passed

theorem violations_append (set : ResultSet) (rule : Rule) (passed : List Row) (row : Row) :
    rule.violations set (passed ++ [row]) =
      rule.violations set passed + if rule.isViolatedBy (set.facts row) then 1 else 0 := by
  unfold violations
  rw [List.countP_append, List.countP_singleton]

/-- A rule that is used up stays so. -/
theorem isSpent_append {set : ResultSet} {rule : Rule} {passed : List Row}
    (spent : rule.isSpent set passed) (more : List Row) : rule.isSpent set (passed ++ more) := by
  have reached : rule.violation.limit ≤ rule.violations set passed := of_decide_eq_true spent
  have grown : rule.violations set passed ≤ rule.violations set (passed ++ more) := by
    unfold violations
    rw [List.countP_append]
    exact Nat.le_add_right _ _
  exact decide_eq_true (Nat.le_trans reached grown)

end Rule

namespace CountedRule

/-- A rule with its count behind a row with the given facts. -/
def advance (facts : Facts) (counted : CountedRule) : CountedRule :=
  if counted.rule.isViolatedBy facts && !counted.isExhausted then
    { counted with marked := counted.marked + 1 }
  else counted

/-- The marks that a row with the given facts gets. -/
def marksDue (facts : Facts) (counted : List CountedRule) : List (String × Mark) :=
  (counted.filter fun one => one.rule.isViolatedBy facts && !one.isExhausted).map fun one =>
    (one.rule.violation.column, one.rule.violationMark facts)

/-- A rule with the count it has behind the rows passed: their violations, cut at its limit. -/
def after (set : ResultSet) (passed : List Row) (rule : Rule) : CountedRule :=
  ⟨rule, min rule.violation.limit (rule.violations set passed)⟩

/-- A rule is exhausted exactly when as many rows as its limit violate it. -/
theorem isExhausted_after (set : ResultSet) (passed : List Row) (rule : Rule) :
    (after set passed rule).isExhausted = rule.isSpent set passed := by
  unfold isExhausted after Rule.isSpent
  refine decide_eq_decide.2 ?_
  show rule.violation.limit ≤ min rule.violation.limit (rule.violations set passed) ↔
    rule.violation.limit ≤ rule.violations set passed
  omega

/-- **The counts keep the invariant.** -/
theorem advance_after (set : ResultSet) (passed : List Row) (row : Row) (rule : Rule) :
    (after set passed rule).advance (set.facts row) = after set (passed ++ [row]) rule := by
  unfold advance
  rw [isExhausted_after]
  unfold after
  rw [Rule.violations_append]
  by_cases violated : rule.isViolatedBy (set.facts row)
  · by_cases spent : rule.isSpent set passed
    · have reached : rule.violation.limit ≤ rule.violations set passed := of_decide_eq_true spent
      simp only [violated, spent, Bool.not_true, Bool.and_false, Bool.false_eq_true, if_false,
        if_true]
      congr 1
      omega
    · have below : ¬ rule.violation.limit ≤ rule.violations set passed := fun reached =>
        spent (decide_eq_true reached)
      simp only [violated, Bool.eq_false_iff.2 spent, Bool.not_false, Bool.and_self, if_true]
      congr 1
      omega
  · simp [violated]

end CountedRule

/-! ### One row -/

/-- Rules that decide a row are told apart by their conditions. -/
theorem ResultSet.verdicts_eq (counted : List CountedRule) (facts : Facts)
    (decides : ∀ one ∈ counted, one.rule.Decides facts) :
    verdicts (Engine.ofRules (counted.map CountedRule.rule)) facts counted =
      .ok (counted.map fun one => (one, one.rule.isViolatedBy facts)) := by
  have evaluated := Engine.verdictsOf_eq (Engine.ofRules (counted.map CountedRule.rule)) rfl facts
    (counted.map CountedRule.rule) fun rule member => by
      obtain ⟨one, inside, rfl⟩ := List.mem_map.1 member
      exact decides one inside
  have run : (Engine.ofRules (counted.map CountedRule.rule)).run facts = _ := evaluated
  unfold verdicts
  rw [run, List.map_prod_left_eq_zip]
  simp [Except.map, List.map_map, Function.comp_def]

/-- A row gets the marks of the violated rules that are not exhausted. -/
theorem markRow_eq (facts : Facts) (counted : List CountedRule) (row : Row) :
    markRow facts (counted.map fun one => (one, one.rule.isViolatedBy facts)) row =
      ⟨row.pushEach (CountedRule.marksDue facts counted), counted.map (CountedRule.advance facts),
        counted.all fun one => !one.rule.isViolatedBy facts⟩ := by
  induction counted generalizing row with
  | nil => rfl
  | cons one rest ih =>
    by_cases violated : one.rule.isViolatedBy facts
    · by_cases exhausted : one.isExhausted
      · simp [markRow, violated, exhausted, ih, CountedRule.marksDue, CountedRule.advance]
      · simp [markRow, violated, exhausted, ih, CountedRule.marksDue, CountedRule.advance]
    · simp [markRow, violated, ih, CountedRule.marksDue, CountedRule.advance]

/-! ### One step of the check -/

namespace ResultSet

/-- The rules with their counts behind the rows passed. -/
def countsAfter (set : ResultSet) (rules : List Rule) (passed : List Row) : List CountedRule :=
  rules.map (CountedRule.after set passed)

/-- The marks of a row behind the rows passed. -/
def marksFor (set : ResultSet) (rules : List Rule) (passed : List Row) (row : Row) :
    List (String × Mark) :=
  (rules.filter (Rule.marks set passed row)).map fun rule =>
    (rule.violation.column, rule.violationMark (set.facts row))

/-- Whether a row violates none of the rules. -/
def isCleanFor (set : ResultSet) (rules : List Rule) (row : Row) : Bool :=
  rules.all fun rule => !rule.isViolatedBy (set.facts row)

/-- Whether the rows passed used up all that all rules may mark. -/
def allSpent (set : ResultSet) (rules : List Rule) (passed : List Row) : Bool :=
  rules.all (Rule.isSpent set passed)

/-- Rules that are spent stay so. -/
theorem allSpent_append (set : ResultSet) (rules : List Rule) {passed : List Row}
    (spent : set.allSpent rules passed) (more : List Row) :
    set.allSpent rules (passed ++ more) := by
  unfold allSpent at spent ⊢
  rw [List.all_eq_true] at spent ⊢
  exact fun rule member => Rule.isSpent_append (spent rule member) more

/-- The marks that are due at a row are those of the rules that are not spent. -/
theorem marksDue_countsAfter (set : ResultSet) (rules : List Rule) (passed : List Row) (row : Row) :
    CountedRule.marksDue (set.facts row) (set.countsAfter rules passed) =
      set.marksFor rules passed row := by
  unfold CountedRule.marksDue countsAfter marksFor
  rw [List.filter_map, List.map_map]
  congr 1
  refine List.filter_congr fun rule _ => ?_
  simp only [Function.comp_apply, CountedRule.isExhausted_after]
  rfl

/-- A row is counted for the rules that it violates. -/
theorem map_advance_countsAfter (set : ResultSet) (rules : List Rule) (passed : List Row)
    (row : Row) : (set.countsAfter rules passed).map (CountedRule.advance (set.facts row)) =
      set.countsAfter rules (passed ++ [row]) := by
  unfold countsAfter
  rw [List.map_map]
  exact List.map_congr_left fun rule _ => CountedRule.advance_after set passed row rule

theorem all_isExhausted_countsAfter (set : ResultSet) (rules : List Rule) (passed : List Row) :
    (set.countsAfter rules passed).all CountedRule.isExhausted = set.allSpent rules passed := by
  unfold countsAfter allSpent
  rw [List.all_map]
  exact congrArg rules.all (funext (CountedRule.isExhausted_after set passed))

/-- **One step of the check**, from the invariant to the invariant. -/
theorem checkRows_cons (set : ResultSet) (rules : List Rule) (passed : List Row) (row : Row)
    (rest : List Row) (decides : ∀ rule ∈ rules, rule.Decides (set.facts row)) :
    set.checkRows (Engine.ofRules rules) (set.countsAfter rules passed) (row :: rest) =
      if set.allSpent rules (passed ++ [row]) then
        ⟨row.pushEach (set.marksFor rules passed row) :: rest, .ok (set.isCleanFor rules row)⟩
      else
        let others := set.checkRows (Engine.ofRules rules)
          (set.countsAfter rules (passed ++ [row])) rest
        ⟨row.pushEach (set.marksFor rules passed row) :: others.rows,
          others.verdict.map (set.isCleanFor rules row && ·)⟩ := by
  have same : (set.countsAfter rules passed).map CountedRule.rule = rules := by
    unfold countsAfter
    rw [List.map_map]
    exact List.map_id rules
  have found := verdicts_eq (set.countsAfter rules passed) (set.facts row) fun one member => by
    obtain ⟨rule, inside, rfl⟩ := List.mem_map.1 member
    exact decides rule inside
  rw [same] at found
  have clean : (set.countsAfter rules passed).all
      (fun one => !one.rule.isViolatedBy (set.facts row)) = set.isCleanFor rules row := by
    unfold countsAfter isCleanFor
    rw [List.all_map]
    rfl
  rw [checkRows]
  simp only [found, markRow_eq, marksDue_countsAfter, map_advance_countsAfter,
    all_isExhausted_countsAfter, clean]

/-! ### The whole check -/

theorem countsAfter_nil (set : ResultSet) (rules : List Rule) :
    set.countsAfter rules [] = rules.map fun rule => ⟨rule, 0⟩ := by
  unfold countsAfter
  refine List.map_congr_left fun rule _ => ?_
  show CountedRule.mk rule (min rule.violation.limit 0) = ⟨rule, 0⟩
  rw [Nat.min_zero]

/-- The rows that are checked: without the marks of an earlier check. -/
def readyRows (set : ResultSet) : List Row := set.rows.map (Row.clear (some .violated))

/-- The facts of a row do not depend on its marks, nor on what is known about the set. -/
@[simp] theorem facts_prepared_clear (set : ResultSet) (table : TableRule) (kind : Option MarkKind)
    (row : Row) : (set.prepared table).facts (row.clear kind) = set.facts row := rfl

/-- What the rules decide of the rows they decide of the cleared ones too. -/
theorem decides_readyRows {set : ResultSet} {table : TableRule} (decides : table.DecidesAll set) :
    ∀ row ∈ set.readyRows, ∀ rule ∈ table.rules, rule.Decides ((set.prepared table).facts row) := by
  intro row member
  obtain ⟨original, inside, rfl⟩ := List.mem_map.1 member
  exact decides original inside

/-- **The check of a set whose rules have built-in operators.** -/
theorem validate_eq (set : ResultSet) {table : TableRule} (known : table.UsesBuiltIns) :
    set.validate table =
      let outcome := (set.prepared table).checkRows (Engine.ofRules table.rules)
        ((set.prepared table).countsAfter table.rules []) set.readyRows
      ({ set.prepared table with rows := outcome.rows }, outcome.verdict) := by
  unfold validate
  rw [Engine.engineFor_eq known, countsAfter_nil]
  rfl

/-- **The check of a set with a rule that is refused**: it ends before any row is looked at, with
the set made ready for it. -/
theorem validate_of_unknown (set : ResultSet) {table : TableRule} (unknown : ¬ table.UsesBuiltIns) :
    ∃ before rule behind operators, table.rules = before ++ rule :: behind ∧
      (∀ earlier ∈ before, earlier.UsesBuiltIns) ∧
      (∀ name, name ∈ operators ↔ name ∈ rule.conditions.operators ∧ Operator.ofName? name = none) ∧
      operators ≠ [] ∧
      set.validate table =
        (set.prepared table, .error (.unknownOperators rule.name operators)) := by
  have missing : ∃ rule ∈ table.rules, ¬ rule.UsesBuiltIns := by
    simpa [TableRule.UsesBuiltIns] using unknown
  obtain ⟨before, rule, behind, operators, parts, earlier, names, some_name, refused⟩ :=
    Engine.foldlM_addRule_stops missing []
  refine ⟨before, rule, behind, operators, parts, earlier, names, some_name, ?_⟩
  rw [validate, show engineFor table.rules = _ from refused]

end ResultSet

end QueryDesk
