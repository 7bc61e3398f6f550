/-
**What the verdict of a check says.**

The check of a set ends early when every rule has marked as many rows as it may. Behind a violation
this is of no consequence for the verdict, since it has been settled; and before any violation all
counts are zero, so the check ends early exactly when all limits are zero, behind the first row.

* `ResultSet.verdict_checkRows_iff` — the verdict on rows behind clean ones, by
  induction on the rows.
* `ResultSet.validate_verdict_iff` — the verdict is that no row violates a rule, or that the check
  ended behind a clean first row because no rule may mark anything.
* `ResultSet.validate_passes_late_violation` — the second case happens.
-/

import QueryDesk.Proofs.RuleCheck.Steps

namespace QueryDesk.ResultSet

/-! ### Rows behind clean ones -/

section Rows

variable (set : ResultSet) (rules : List Rule)

/-- No rule may mark a row. -/
def MarkNothing (rules : List Rule) : Prop := ∀ rule ∈ rules, rule.violation.limit = 0

/-- Behind clean rows all counts are zero, so only limits of zero are reached. -/
theorem allSpent_iff_of_clean {passed : List Row} (clean : passed.all (set.isCleanFor rules)) :
    set.allSpent rules passed ↔ MarkNothing rules := by
  have uncounted : ∀ rule ∈ rules, rule.violations set passed = 0 := by
    intro rule member
    refine List.countP_eq_zero.2 fun row inside violated => ?_
    have each := List.all_eq_true.1 (List.all_eq_true.1 clean row inside) rule member
    rw [violated] at each
    cases each
  unfold allSpent MarkNothing
  rw [List.all_eq_true]
  refine forall₂_congr fun rule member => ?_
  unfold Rule.isSpent
  rw [uncounted rule member, decide_eq_true_eq, Nat.le_zero]

/-- Rows on which every rule has a verdict get a verdict. -/
theorem verdict_checkRows_ok (rows : List Row) :
    ∀ passed : List Row, (∀ row ∈ rows, ∀ rule ∈ rules, rule.Decides (set.facts row)) →
      ∃ verdict,
        (set.checkRows (Engine.ofRules rules) (set.countsAfter rules passed) rows).verdict =
        .ok verdict := by
  induction rows with
  | nil => exact fun _ _ => ⟨true, rfl⟩
  | cons row rest ih =>
    intro passed decides
    rw [checkRows_cons set rules passed row rest (decides row List.mem_cons_self)]
    split
    · exact ⟨_, rfl⟩
    · obtain ⟨verdict, found⟩ := ih (passed ++ [row]) fun other member =>
        decides other (List.mem_cons_of_mem row member)
      refine ⟨set.isCleanFor rules row && verdict, ?_⟩
      show Except.map (set.isCleanFor rules row && ·) _ = _
      rw [found]
      rfl

/-- **The verdict on rows behind clean ones.** The induction is on the rows; a row that violates a
rule settles the verdict, a clean one hands the invariant on. -/
theorem verdict_checkRows_iff (rows : List Row) :
    ∀ passed : List Row, passed.all (set.isCleanFor rules) →
      (∀ row ∈ rows, ∀ rule ∈ rules, rule.Decides (set.facts row)) →
      ∃ verdict,
        (set.checkRows (Engine.ofRules rules) (set.countsAfter rules passed) rows).verdict =
          .ok verdict ∧
        (verdict = true ↔ rows.all (set.isCleanFor rules) ∨
          (MarkNothing rules ∧ rows.head?.any (set.isCleanFor rules))) := by
  induction rows with
  | nil => exact fun _ _ _ => ⟨true, rfl, by simp⟩
  | cons row rest ih =>
    intro passed clean decides
    have decidesRest : ∀ other ∈ rest, ∀ rule ∈ rules, rule.Decides (set.facts other) :=
      fun other member => decides other (List.mem_cons_of_mem row member)
    rw [checkRows_cons set rules passed row rest (decides row List.mem_cons_self)]
    by_cases rowClean : set.isCleanFor rules row
    · have cleanAfter : (passed ++ [row]).all (set.isCleanFor rules) := by
        rw [List.all_append, clean]
        simp [rowClean]
      have spent := allSpent_iff_of_clean set rules cleanAfter
      by_cases nothing : MarkNothing rules
      · rw [if_pos (spent.2 nothing)]
        exact ⟨true, by rw [rowClean], by simp [nothing, rowClean]⟩
      · rw [if_neg fun reached => nothing (spent.1 reached)]
        obtain ⟨verdict, found, meaning⟩ := ih (passed ++ [row]) cleanAfter decidesRest
        refine ⟨verdict, by simp [found, Except.map, rowClean], ?_⟩
        simpa [nothing, rowClean] using meaning
    · have violated : set.isCleanFor rules row = false := Bool.eq_false_iff.2 rowClean
      refine ⟨false, ?_, by simp [violated]⟩
      split
      · rw [violated]
      · obtain ⟨verdict, found⟩ := verdict_checkRows_ok set rules rest (passed ++ [row]) decidesRest
        show Except.map (set.isCleanFor rules row && ·) _ = _
        rw [found, violated]
        rfl

end Rows

/-! ### The verdict on a set -/

/-- The conditions of some rule hold for the facts of a row. -/
def Violates (set : ResultSet) (table : TableRule) (row : Row) : Prop :=
  ∃ rule ∈ table.rules, rule.conditions.holds Operator.builtIn (set.facts row) = .ok true

/-- No rule may mark a row, and a violation is hidden behind a clean first row. -/
def HidesViolation (set : ResultSet) (table : TableRule) : Prop :=
  MarkNothing table.rules ∧ ∃ first rest, set.rows = first :: rest ∧
    ¬ set.Violates table first ∧ ∃ row ∈ rest, set.Violates table row

theorem isCleanFor_iff (set : ResultSet) (table : TableRule) (row : Row) :
    set.isCleanFor table.rules row = true ↔ ¬ set.Violates table row := by
  unfold isCleanFor Violates
  rw [List.all_eq_true]
  constructor
  · rintro clean ⟨rule, member, holds⟩
    have each := clean rule member
    rw [(rule.isViolatedBy_iff _).2 holds] at each
    cases each
  · intro clean rule member
    rw [Bool.not_eq_true', Bool.eq_false_iff]
    exact fun violated => clean ⟨rule, member, (rule.isViolatedBy_iff _).1 violated⟩

theorem all_isCleanFor_readyRows (set : ResultSet) (table : TableRule) :
    set.readyRows.all ((set.prepared table).isCleanFor table.rules) = true ↔
      ∀ row ∈ set.rows, ¬ set.Violates table row := by
  unfold readyRows
  rw [List.all_map, List.all_eq_true]
  exact forall₂_congr fun row _ => isCleanFor_iff set table row

theorem head_isCleanFor_readyRows (set : ResultSet) (table : TableRule) :
    set.readyRows.head?.any ((set.prepared table).isCleanFor table.rules) = true ↔
      ∃ first rest, set.rows = first :: rest ∧ ¬ set.Violates table first := by
  unfold readyRows
  cases set.rows with
  | nil => simp
  | cons first rest =>
    have here := isCleanFor_iff set table first
    constructor
    · exact fun clean => ⟨first, rest, rfl, here.1 clean⟩
    · rintro ⟨_, _, same, clean⟩
      cases same
      exact here.2 clean

/-- **The verdict of a check.** It says that no row violates a rule, unless no rule may mark
anything and the violations are hidden behind a clean first row. -/
theorem validate_verdict_iff (set : ResultSet) (table : TableRule) (known : table.UsesBuiltIns)
    (decides : table.DecidesAll set) :
    ∃ verdict, (set.validate table).2 = .ok verdict ∧
      (verdict = true ↔
        (∀ row ∈ set.rows, ¬ set.Violates table row) ∨ set.HidesViolation table) ∧
      ((verdict = true ↔ ∀ row ∈ set.rows, ¬ set.Violates table row) ↔
        ¬ set.HidesViolation table) := by
  obtain ⟨verdict, found, meaning⟩ := verdict_checkRows_iff (set.prepared table) table.rules
    set.readyRows [] rfl (decides_readyRows decides)
  rw [all_isCleanFor_readyRows, head_isCleanFor_readyRows] at meaning
  have hidden : set.HidesViolation table → ¬ ∀ row ∈ set.rows, ¬ set.Violates table row := by
    rintro ⟨_, first, rest, rows, _, row, member, violated⟩ clean
    exact clean row (rows ▸ List.mem_cons_of_mem first member) violated
  have exact_meaning : verdict = true ↔
      (∀ row ∈ set.rows, ¬ set.Violates table row) ∨ set.HidesViolation table := by
    rw [meaning]
    constructor
    · rintro (clean | ⟨nothing, first, rest, rows, firstClean⟩)
      · exact Or.inl clean
      · by_cases later : ∃ row ∈ rest, set.Violates table row
        · exact Or.inr ⟨nothing, first, rest, rows, firstClean, later⟩
        · refine Or.inl fun row member violated => ?_
          rw [rows] at member
          rcases List.mem_cons.1 member with rfl | inRest
          · exact firstClean violated
          · exact later ⟨row, inRest, violated⟩
    · rintro (clean | ⟨nothing, first, rest, rows, firstClean, _⟩)
      · exact Or.inl clean
      · exact Or.inr ⟨nothing, first, rest, rows, firstClean⟩
  refine ⟨verdict, by rw [validate_eq set known]; exact found, exact_meaning, ?_⟩
  rw [exact_meaning]
  constructor
  · exact fun same hides => hidden hides (same.1 (Or.inr hides))
  · exact fun shown => ⟨fun either => either.resolve_right shown, Or.inl⟩

/-! ### A violation that is passed over -/

/-- A set with one column, of one value a row. -/
def ofColumn (column : String) (values : List Value) : ResultSet :=
  ⟨[.ofName column], values.map fun value => ⟨[(column, value)], .empty⟩, .unknown, none, none⟩

end QueryDesk.ResultSet

namespace QueryDesk.TableRule

/-- A single rule, which the rows with nothing in a column violate. -/
def requires (column : String) (limit : Nat) : TableRule :=
  ⟨"items", [⟨column ++ " is there", ⟨.all, [.leaf ⟨column, "isNull", .null⟩]⟩,
    ⟨column, limit, []⟩⟩]⟩

theorem usesBuiltIns_requires (column : String) (limit : Nat) :
    (requires column limit).UsesBuiltIns := by
  intro rule member name used
  obtain rfl := List.mem_singleton.1 member
  obtain rfl := List.mem_singleton.1 used
  rfl

theorem decidesAll_requires (column : String) (limit : Nat) (set : ResultSet) :
    (requires column limit).DecidesAll set := by
  intro row _ rule member
  obtain rfl := List.mem_singleton.1 member
  have leaf : Leaf.holds Operator.builtIn (set.facts row) ⟨column, "isNull", .null⟩ =
      .ok (((set.facts row).lookup column).any Value.isNull) := rfl
  refine ⟨((set.facts row).lookup column).any Value.isNull, ?_⟩
  show Condition.allHold Operator.builtIn (set.facts row) [.leaf ⟨column, "isNull", .null⟩] = _
  rw [Condition.allHold, Condition.holds, leaf]
  cases ((set.facts row).lookup column).any Value.isNull <;> rfl

end QueryDesk.TableRule

namespace QueryDesk.ResultSet

/-- Two rows, of which only the second has nothing in its column. -/
def lateGap : ResultSet := ofColumn "a" [.int 1, .null]

theorem validate_verdict_of_late_violation :
    (TableRule.requires "a" 1).UsesBuiltIns ∧ (TableRule.requires "a" 1).DecidesAll lateGap ∧
      ∃ verdict, (lateGap.validate (TableRule.requires "a" 1)).2 = .ok verdict ∧
        (verdict = true ↔
          (∀ row ∈ lateGap.rows, ¬ lateGap.Violates (TableRule.requires "a" 1) row) ∨
            lateGap.HidesViolation (TableRule.requires "a" 1)) ∧
        ((verdict = true ↔ ∀ row ∈ lateGap.rows,
          ¬ lateGap.Violates (TableRule.requires "a" 1) row) ↔
          ¬ lateGap.HidesViolation (TableRule.requires "a" 1)) :=
  have known := TableRule.usesBuiltIns_requires "a" 1
  have decides := TableRule.decidesAll_requires "a" 1 lateGap
  ⟨known, decides, validate_verdict_iff _ _ known decides⟩

/-- **A limit of zero hides a violation**: the check of two rows ends behind the first, which is
clean, and says that no row violates the rule. The second does. -/
theorem validate_passes_late_violation :
    (TableRule.requires "a" 0).UsesBuiltIns ∧ (TableRule.requires "a" 0).DecidesAll lateGap ∧
      (lateGap.validate (TableRule.requires "a" 0)).2 = .ok true ∧
      ∃ row ∈ lateGap.rows, lateGap.Violates (TableRule.requires "a" 0) row := by
  have known := TableRule.usesBuiltIns_requires "a" 0
  refine ⟨known, TableRule.decidesAll_requires "a" 0 _, ?_, ?_⟩
  · rw [validate_eq _ known]
    rfl
  · exact ⟨⟨[("a", .null)], .empty⟩, by simp [lateGap, ofColumn], _, List.mem_singleton_self _, rfl⟩

end QueryDesk.ResultSet
