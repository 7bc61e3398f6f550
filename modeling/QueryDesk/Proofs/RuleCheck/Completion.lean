/-
**When the check of a set is completed.**

The check goes through the rows until every rule has marked as many of them as it may, and on each
row it looks at, all rules are evaluated. So it is completed exactly when no evaluation on these
rows comes to a leaf whose test fails.

* `Leaf.Fails`, `Rule.decides_iff` — a rule has a verdict when its evaluation comes to no failing
  leaf.
* `ResultSet.LooksAt` — the rows the check looks at; `ResultSet.verdict_checkRows_exists_iff` — they
  decide whether it is completed, by induction on the rows.
* `ResultSet.validate_completes_iff` — a check is completed when no leaf fails that it comes to;
  what it fails with otherwise; and what becomes of comparisons of values that cannot be put in
  order.
* `ResultSet.validate_fails_at_large_number` — a check that is not completed.
-/

import QueryDesk.Proofs.RuleCheck.Verdict
import QueryDesk.Proofs.RuleEngine.Evaluation
import QueryDesk.Proofs.RuleEngine.Failures
import QueryDesk.Proofs.Value.Reflexivity

namespace QueryDesk

/-! ### Leaves and rules -/

/-- The test of a leaf fails on facts. -/
def Leaf.Fails (facts : Facts) (leaf : Leaf) : Prop :=
  ∃ operator, Operator.ofName? leaf.operator = some operator ∧
    operator.Fails (facts.lookup leaf.fact) (leaf.comparand facts)

namespace Leaf

variable {leaf : Leaf} {operator : Operator}

theorem holds_of_ofName (named : Operator.ofName? leaf.operator = some operator) (facts : Facts) :
    leaf.holds Operator.builtIn facts =
      operator.holds (facts.lookup leaf.fact) (leaf.comparand facts) := by
  rw [holds, Operator.lookup_builtIn, named]
  rfl

theorem noResult_holds_iff (named : Operator.ofName? leaf.operator = some operator)
    (facts : Facts) :
    NoResult (leaf.holds Operator.builtIn facts) ↔ leaf.Fails facts := by
  rw [holds_of_ofName named, Operator.noResult_holds_iff, Fails, named]
  simp

end Leaf

namespace Rule

variable {rule : Rule} {facts : Facts}

theorem named_of_reaches (known : rule.UsesBuiltIns) {leaf : Leaf}
    (reached : Condition.Reaches Operator.builtIn facts rule.conditions.toCondition leaf) :
    ∃ operator, Operator.ofName? leaf.operator = some operator :=
  Option.isSome_iff_exists.1 (known leaf.operator (List.mem_map_of_mem reached.mem_leaves))

theorem noResult_holds_iff (known : rule.UsesBuiltIns) :
    NoResult (rule.conditions.holds Operator.builtIn facts) ↔
      ∃ leaf, Condition.Reaches Operator.builtIn facts rule.conditions.toCondition leaf ∧
        leaf.Fails facts := by
  have found := fun failure =>
    Condition.holds_eq_error_iff Operator.builtIn facts failure rule.conditions.toCondition
  constructor
  · rintro ⟨failure, failed⟩
    obtain ⟨leaf, reached, broken⟩ := (found failure).1 failed
    obtain ⟨operator, named⟩ := named_of_reaches known reached
    exact ⟨leaf, reached, (Leaf.noResult_holds_iff named facts).1 ⟨failure, broken⟩⟩
  · rintro ⟨leaf, reached, fails⟩
    obtain ⟨operator, named⟩ := named_of_reaches known reached
    obtain ⟨failure, broken⟩ := (Leaf.noResult_holds_iff named facts).2 fails
    exact ⟨failure, (found failure).2 ⟨leaf, reached, broken⟩⟩

/-- **A rule has a verdict** when its evaluation comes to no failing leaf. -/
theorem decides_iff (known : rule.UsesBuiltIns) :
    rule.Decides facts ↔
      ∀ leaf, Condition.Reaches Operator.builtIn facts rule.conditions.toCondition leaf →
        ¬ leaf.Fails facts := by
  rw [Decides, exists_ok_iff, noResult_holds_iff known, not_exists]
  exact forall_congr' fun leaf => not_and

theorem isOfTest_of_holds (known : rule.UsesBuiltIns) {failure : Failure}
    (failed : rule.conditions.holds Operator.builtIn facts = .error failure) :
    failure.IsOfTest := by
  obtain ⟨leaf, reached, broken⟩ :=
    (Condition.holds_eq_error_iff Operator.builtIn facts failure rule.conditions.toCondition).1
      failed
  obtain ⟨operator, named⟩ := named_of_reaches known reached
  rw [Leaf.holds_of_ofName named] at broken
  exact Operator.isOfTest_of_holds broken

end Rule

/-! ### Rows -/

namespace ResultSet

section Rows

variable (set : ResultSet) (rules : List Rule)

/-- Verdicts are missing exactly when one of the rules does not decide the row. -/
theorem noResult_verdicts_iff (counted : List CountedRule) (facts : Facts) :
    NoResult (verdicts (Engine.ofRules rules) facts counted) ↔ ¬ ∀ rule ∈ rules,
      rule.Decides facts := by
  have decided := fun found =>
    @Engine.verdictsOf_eq_ok_iff (Engine.ofRules rules) facts found (rules.map Rule.toEngineRule)
  unfold verdicts
  rw [noResult_map, ← not_iff_not, ← exists_ok_iff, not_not]
  constructor
  · rintro ⟨found, completed⟩
    exact fun rule inside => ((decided found).1 completed).1 _ (List.mem_map_of_mem inside)
  · intro decides
    refine ⟨_, (decided _).2 ⟨List.forall_mem_map.2 decides, rfl⟩⟩

theorem noResult_checkRows_cons (counted : List CountedRule) {first : Row} (rest : List Row)
    (undecided : ¬ ∀ rule ∈ rules, rule.Decides (set.facts first)) :
    NoResult (set.checkRows (Engine.ofRules rules) counted (first :: rest)).verdict := by
  obtain ⟨failure, failed⟩ :=
    (noResult_verdicts_iff rules counted (set.facts first)).2 undecided
  rw [checkRows]
  simp only [failed]
  exact noResult_error failure

/-- **Whether a check is completed** is decided on the rows it looks at: the first, and those before
which not all rules are used up. The induction is on the rows. -/
theorem verdict_checkRows_exists_iff (rows : List Row) : ∀ passed : List Row,
    (∃ verdict, (set.checkRows (Engine.ofRules rules) (set.countsAfter rules passed) rows).verdict =
        .ok verdict) ↔
      ∀ place row, rows[place]? = some row →
        place = 0 ∨ set.allSpent rules (passed ++ rows.take place) = false →
          ∀ rule ∈ rules, rule.Decides (set.facts row) := by
  induction rows with
  | nil =>
    intro passed
    refine iff_of_true ⟨true, rfl⟩ fun place row found => ?_
    rw [List.getElem?_nil] at found
    cases found
  | cons first rest ih =>
    intro passed
    by_cases decides : ∀ rule ∈ rules, rule.Decides (set.facts first)
    · rw [checkRows_cons set rules passed first rest decides]
      cases spent : set.allSpent rules (passed ++ [first]) with
      | true =>
        -- the check ends here, so no row behind the first is looked at
        refine iff_of_true ⟨_, rfl⟩ fun place row found looked => ?_
        cases place with
        | zero =>
          obtain rfl : first = row := Option.some.inj found
          exact decides
        | succ place =>
          have later := allSpent_append set rules spent (rest.take place)
          rw [List.append_assoc] at later
          rcases looked with start | unspent
          · cases start
          · exact (Bool.false_ne_true (unspent.symm.trans later)).elim
      | false =>
        -- places behind the first are those of the rest, moved by one
        rw [if_neg Bool.false_ne_true]
        show (∃ verdict, Except.map _ (checkRows _ _ _ rest).verdict = .ok verdict) ↔ _
        rw [exists_ok_iff, noResult_map, ← exists_ok_iff, ih (passed ++ [first])]
        constructor
        · intro each place row found looked
          cases place with
          | zero =>
            obtain rfl : first = row := Option.some.inj found
            exact decides
          | succ place =>
            rcases looked with start | unspent
            · cases start
            · refine each place row found (.inr ?_)
              rwa [List.append_assoc]
        · intro each place row found looked
          refine each (place + 1) row found (.inr ?_)
          rcases looked with rfl | unspent
          · exact spent
          · rwa [List.append_assoc] at unspent
    · refine iff_of_false ?_ fun each => decides (each 0 first rfl (.inl rfl))
      rw [exists_ok_iff, not_not]
      exact noResult_checkRows_cons set rules _ rest decides

/-- What a check fails with, a rule fails with on some row. -/
theorem failure_of_checkRows (rows : List Row) : ∀ {counted : List CountedRule} {failure : Failure},
    (set.checkRows (Engine.ofRules rules) counted rows).verdict = .error failure →
      ∃ row ∈ rows, ∃ rule ∈ rules,
        rule.conditions.holds Operator.builtIn (set.facts row) = .error failure := by
  induction rows with
  | nil => exact nofun
  | cons first rest ih =>
    intro counted failure failed
    rw [checkRows] at failed
    cases found : verdicts (Engine.ofRules rules) (set.facts first) counted with
    | error cause =>
      simp only [found] at failed
      obtain rfl : cause = failure := Except.error.inj failed
      obtain ⟨_, rule, _, parts, -, broken⟩ :=
        (Engine.verdictsOf_eq_error_iff _ _ _).1 (of_map_eq_error found)
      have inside : rule ∈ (Engine.ofRules rules).rules := by simp [parts]
      obtain ⟨original, member, rfl⟩ := List.mem_map.1 inside
      exact ⟨first, List.mem_cons_self, original, member, broken⟩
    | ok verdicts =>
      simp only [found] at failed
      split at failed
      · cases failed
      · obtain ⟨row, inside, rule, member, broken⟩ := ih (of_map_eq_error failed)
        exact ⟨row, List.mem_cons_of_mem first inside, rule, member, broken⟩

end Rows

/-! ### The whole check -/

/-- A check looks at a row: it is the first, or some rule may mark more rows
than violate it before. -/
def LooksAt (set : ResultSet) (table : TableRule) (place : Nat) : Prop :=
  place = 0 ∨ ∃ rule ∈ table.rules,
    rule.violations set (set.rows.take place) < rule.violation.limit

/-- A row is looked at exactly when the rules are not all spent in front of it. -/
theorem looksAt_iff (set : ResultSet) (table : TableRule) (place : Nat) :
    set.LooksAt table place ↔ place = 0 ∨
      (set.prepared table).allSpent table.rules ([] ++ set.readyRows.take place) = false := by
  have same (rule : Rule) : rule.violations (set.prepared table) (set.readyRows.take place) =
      rule.violations set (set.rows.take place) := by
    unfold Rule.violations readyRows
    rw [← List.map_take, List.countP_map]
    rfl
  refine or_congr_right ?_
  unfold allSpent Rule.isSpent
  rw [List.nil_append, List.all_eq_false]
  simp [same]

theorem verdict_validate_exists_iff (set : ResultSet) {table : TableRule}
    (known : table.UsesBuiltIns) :
    (∃ verdict, (set.validate table).2 = .ok verdict) ↔
      ∀ place row, set.rows[place]? = some row → set.LooksAt table place →
        ∀ rule ∈ table.rules, rule.Decides (set.facts row) := by
  rw [validate_eq set known]
  refine (verdict_checkRows_exists_iff (set.prepared table) table.rules set.readyRows []).trans ?_
  simp only [looksAt_iff]
  constructor
  · intro each place row found
    have ready : set.readyRows[place]? = some (row.clear (some .violated)) := by
      unfold readyRows
      rw [List.getElem?_map, found]
      rfl
    exact each place (row.clear (some .violated)) ready
  · intro each place row found
    unfold readyRows at found
    rw [List.getElem?_map] at found
    obtain ⟨original, there, rfl⟩ := Option.map_eq_some_iff.1 found
    exact each place original there

/-- A check fails at once when the first rule fails on the first row. -/
theorem validate_of_first_failure (set : ResultSet) {table : TableRule} (known : table.UsesBuiltIns)
    {row : Row} {rest : List Row} (rows : set.rows = row :: rest) {rule : Rule} {others : List Rule}
    (rules : table.rules = rule :: others) {failure : Failure}
    (failed : rule.conditions.holds Operator.builtIn (set.facts row) = .error failure) :
    (set.validate table).2 = .error failure := by
  have stopped : verdicts (Engine.ofRules table.rules)
      ((set.prepared table).facts (row.clear (some .violated)))
      ((set.prepared table).countsAfter table.rules []) = .error failure := by
    have run : (Engine.ofRules table.rules).run (set.facts row) = .error failure := by
      refine (Engine.verdictsOf_eq_error_iff _ _ _).2
        ⟨[], rule.toEngineRule, others.map Rule.toEngineRule, ?_, nofun, failed⟩
      show table.rules.map Rule.toEngineRule = _
      rw [rules]
      rfl
    rw [facts_prepared_clear, verdicts, run]
    rfl
  rw [validate_eq set known]
  unfold readyRows
  rw [rows, List.map_cons, checkRows]
  simp only [stopped]

/-- What a check fails with: a rule is refused that has an operator which is not built in, or a test
fails. -/
theorem failure_of_validate (set : ResultSet) {table : TableRule} {failure : Failure}
    (failed : (set.validate table).2 = .error failure) :
    (∃ name operators, failure = .unknownOperators name operators) ∨ failure.IsOfTest := by
  by_cases known : table.UsesBuiltIns
  · rw [validate_eq set known] at failed
    obtain ⟨row, -, rule, inside, broken⟩ := failure_of_checkRows _ _ _ failed
    exact .inr (Rule.isOfTest_of_holds (known rule inside) broken)
  · obtain ⟨_, rule, _, operators, -, -, -, -, refused⟩ := validate_of_unknown set known
    rw [refused] at failed
    exact .inl ⟨rule.name, operators, (Except.error.inj failed).symm⟩

/-- The values that a check works with: the facts of the rows and what leaves compare them with. -/
inductive ChecksValue (set : ResultSet) (table : TableRule) : Value → Prop
  | fact {row : Row} {fact : String × Value} (inside : row ∈ set.rows)
      (known : fact ∈ set.facts row) : ChecksValue set table fact.2
  | leaf {rule : Rule} {leaf : Leaf} (inside : rule ∈ table.rules)
      (used : leaf ∈ rule.conditions.leaves) : ChecksValue set table leaf.value

/-- **When a check is completed**: exactly when no evaluation of a rule on a row the check looks at
comes to a leaf whose test fails. A check that is not completed ends with the failure of a test: a
not-a-number, a whole number out of reach of doubles, a value that can be no member, or a number too
long to be written. That two values cannot be put in order is none: unless a conversion fails, they
are compared as the doubles they stand for, and a comparison does not hold where one stands for
none; and a fact lies between two bounds when both comparisons hold.

No container among the values holds a not-a-number. A search that first asks whether an element is
the very object that is sought would find such a number, which equals nothing; everything else that
the containers hold equals itself, so for these values there is no difference. -/
theorem validate_completes_iff (set : ResultSet) {table : TableRule} (known : table.UsesBuiltIns)
    (proper : ∀ value, set.ChecksValue table value → ¬ value.HoldsNaN) :
    ((∃ verdict, (set.validate table).2 = .ok verdict) ↔
      ∀ place row, set.rows[place]? = some row → set.LooksAt table place → ∀ rule ∈ table.rules,
        ∀ leaf,
          Condition.Reaches Operator.builtIn (set.facts row) rule.conditions.toCondition leaf →
            ¬ leaf.Fails (set.facts row)) ∧
    (∀ failure, (set.validate table).2 = .error failure → failure.IsOfTest) ∧
    (∀ value, set.ChecksValue table value → ∀ inner : Value, inner.Within value →
      inner.HasSingleKeys → inner.equal inner = .ok true) ∧
    (∀ relation present value, Value.Unordered present value →
      ¬ Operator.ConversionFails present value →
      ∃ held, (Operator.compare relation).holds (some present) value = .ok held ∧
        (held = true ↔ ∃ left right, present.toDouble = .ok (some left) ∧
          value.toDouble = .ok (some right) ∧
          relation.holdsOfMagnitudes (.ofDouble left) (.ofDouble right) = true)) ∧
    ∀ fact bounds, Operator.between.holds fact bounds = .ok true ↔
      ∃ low high, bounds.elements? = some [low, high] ∧
        (Operator.compare .greaterOrEqual).holds fact low = .ok true ∧
        (Operator.compare .lessOrEqual).holds fact high = .ok true := by
  refine ⟨?completed, fun failure failed => ?failure, fun value works inner held single => ?self,
    fun relation present value => Operator.compare_of_unordered, Operator.between_eq_ok_true_iff⟩
  case completed =>
    rw [verdict_validate_exists_iff set known]
    refine forall₄_congr fun place row found looked => forall₂_congr fun rule inside => ?_
    exact Rule.decides_iff (known rule inside)
  case failure =>
    rw [validate_eq set known] at failed
    obtain ⟨row, -, rule, inside, broken⟩ := failure_of_checkRows _ _ _ failed
    exact Rule.isOfTest_of_holds (known rule inside) broken
  case self =>
    exact inner.equal_self (Value.isNaNFree_of_within held (proper value works)) single

end ResultSet

/-! ### Comparisons with a text -/

/-- A single rule, which the rows violate that are below a value in a column. -/
def TableRule.forbidsBelow (column : String) (bound : Value) : TableRule :=
  ⟨"items", [⟨column ++ " is not below", ⟨.all, [.leaf ⟨column, "lessThan", bound⟩]⟩,
    ⟨column, 1, []⟩⟩]⟩

theorem TableRule.usesBuiltIns_forbidsBelow (column : String) (bound : Value) :
    (forbidsBelow column bound).UsesBuiltIns := by
  intro rule member name used
  obtain rfl := List.mem_singleton.1 member
  obtain rfl := List.mem_singleton.1 used
  rfl

namespace ResultSet

/-- The row of a set with a single number in a column. -/
theorem eq_of_getElem?_ofColumn {column : String} {value : Value} {place : Nat} {row : Row}
    (found : (ofColumn column [value]).rows[place]? = some row) :
    row = ⟨[(column, value)], .empty⟩ :=
  List.mem_singleton.1 (List.mem_of_getElem? found)

/-- What is checked is a single value and a bound, so containers only hold what these two hold. -/
theorem not_holdsNaN_of_forbidsBelow {column : String} {cell bound : Value}
    (plain : cell.parts = []) (plainBound : bound.parts = []) {value : Value}
    (works : (ofColumn column [cell]).ChecksValue (.forbidsBelow column bound) value) :
    ¬ value.HoldsNaN := by
  cases works with
  | fact inside known =>
    obtain rfl := List.mem_singleton.1 inside
    obtain ⟨name, -, entry⟩ := List.mem_filterMap.1 known
    obtain ⟨found, here, rfl⟩ := Option.map_eq_some_iff.1 entry
    obtain ⟨-, rfl⟩ := Prod.mk.inj (List.mem_singleton.1 (mem_of_lookup here))
    exact Value.not_holdsNaN_of_no_parts plain
  | leaf inside used =>
    obtain rfl := List.mem_singleton.1 inside
    obtain rfl := List.mem_singleton.1 used
    exact Value.not_holdsNaN_of_no_parts plainBound

/-- A number that is compared with a word does not stop a check. -/
theorem validate_completes_at_number :
    (TableRule.forbidsBelow "v" (.text "abc")).UsesBuiltIns ∧
      (∀ value, (ofColumn "v" [.int 5]).ChecksValue (.forbidsBelow "v" (.text "abc")) value →
        ¬ value.HoldsNaN) ∧
      ∃ verdict, ((ofColumn "v" [.int 5]).validate (TableRule.forbidsBelow "v" (.text "abc"))).2 =
        .ok verdict := by
  have known := TableRule.usesBuiltIns_forbidsBelow "v" (.text "abc")
  have proper (value : Value)
      (works : (ofColumn "v" [.int 5]).ChecksValue (.forbidsBelow "v" (.text "abc")) value) :
      ¬ value.HoldsNaN := not_holdsNaN_of_forbidsBelow rfl rfl works
  refine ⟨known, proper,
    (validate_completes_iff _ known proper).1.2
      fun place row found _ rule inside leaf reached => ?_⟩
  obtain rfl := eq_of_getElem?_ofColumn found
  obtain rfl := List.mem_singleton.1 inside
  obtain rfl : leaf = ⟨"v", "lessThan", .text "abc"⟩ := List.mem_singleton.1 reached.mem_leaves
  rintro ⟨operator, named, fails⟩
  obtain rfl : Operator.compare .less = operator := Option.some.inj named
  obtain ⟨present, here, fails⟩ := fails
  obtain rfl : Value.int 5 = present := Option.some.inj here
  rcases fails with fails | fails
  · cases fails with
    | numbers _ second => cases second
    | equality sequences => cases sequences
    | order sequences => cases sequences
  · cases fails with
    | fact beyond => exact absurd beyond (by decide +kernel : ¬ Value.IsOutOfReach 5)

/-- **A large number stops a check**: it is compared with a word as a double, and is out of
reach. -/
theorem validate_fails_at_large_number :
    (TableRule.forbidsBelow "v" (.text "abc")).UsesBuiltIns ∧
      Value.Unordered (.int (2 ^ 1024 : Nat)) (.text "abc") ∧
      ((ofColumn "v" [.int (2 ^ 1024 : Nat)]).validate
        (TableRule.forbidsBelow "v" (.text "abc"))).2 = .error (.value .doubleOverflow) := by
  have known := TableRule.usesBuiltIns_forbidsBelow "v" (.text "abc")
  have fails : Operator.ConversionFails (.int (2 ^ 1024 : Nat)) (.text "abc") :=
    .fact (by decide +kernel) rfl rfl
  refine ⟨known, fails.unordered, ?_⟩
  -- the number is not looked at any more, and must not be computed with
  generalize ((2 ^ 1024 : Nat) : Int) = number at fails
  have compared : Operator.comparePresent .less (some (.int number)) (.text "abc") =
      .error .doubleOverflow := Operator.comparePresent_eq_error_iff.2 (.inr ⟨rfl, fails⟩)
  have leaf : Leaf.holds Operator.builtIn [("v", .int number)] ⟨"v", "lessThan", .text "abc"⟩ =
      .error (.value .doubleOverflow) := by
    rw [Leaf.holds_of_ofName rfl]
    exact congrArg (Except.mapError Failure.value) compared
  refine validate_of_first_failure _ known rfl rfl ?_
  show Condition.allHold Operator.builtIn [("v", .int number)]
    [.leaf ⟨"v", "lessThan", .text "abc"⟩] = _
  rw [Condition.allHold, Condition.holds, leaf]
  rfl

end ResultSet

end QueryDesk
