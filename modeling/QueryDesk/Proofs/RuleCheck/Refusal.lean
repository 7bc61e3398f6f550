/-
**What a refused check leaves behind.**

A check stores the rules of the table and takes the marks of an earlier check away before it hands
the rules to an engine. So when the engine refuses one of them, for an operator that it does not
know, the set is not as it was: it has no violations any more and names rules that were never run.

* `ResultSet.IsUntouched` — a set with the same columns, values, marks and origin.
* `ResultSet.validate_refused_iff` — **what becomes of a refused check**, and when it leaves the set
  as it was; `ResultSet.validate_refused_loses_marks` — a set that it does not.
-/

import QueryDesk.Proofs.RuleCheck.Steps
import QueryDesk.Proofs.RuleCheck.OwnMarks

namespace QueryDesk

namespace ResultSet

/-- A set with the same columns and origin, and rows with the same values and marks. -/
def IsUntouched (set after : ResultSet) : Prop :=
  after.keys = set.keys ∧ after.origin = set.origin ∧
    List.Forall₂ (fun row marked : Row => marked.values = row.values ∧
      ∀ column, marked.marks.of column none = row.marks.of column none) set.rows after.rows

/-- A set that is made ready for a check is as it was when it has no violations
and the same rules. -/
theorem isUntouched_prepared_iff (set : ResultSet) (table : TableRule) :
    set.IsUntouched (set.prepared table) ↔ set.origin.tableRule = some table ∧
      ∀ row ∈ set.rows, ∀ column, row.marks.of column (some .violated) = [] := by
  have origin : (set.prepared table).origin = set.origin ↔ set.origin.tableRule = some table := by
    refine ⟨fun same => ?_, fun same => ?_⟩
    · rw [← same]
      rfl
    · show { set.origin with tableRule := some table } = set.origin
      rw [← same]
  have marks (row : Row) (column : String) :
      (row.clear (some .violated)).marks.of column none = row.marks.of column none ↔
        row.marks.of column (some .violated) = [] := by
    rw [Row.clear, Marks.of_clear_some, Marks.others, List.filter_eq_self,
      Marks.of_eq_filter row.marks column (some .violated), List.filter_eq_nil_iff]
    simp [Marks.isWanted]
  have rows : List.Forall₂ (fun row marked : Row => marked.values = row.values ∧
      ∀ column, marked.marks.of column none = row.marks.of column none) set.rows
        (set.prepared table).rows ↔
        ∀ row ∈ set.rows, ∀ column, row.marks.of column (some .violated) = [] := by
    show List.Forall₂ _ set.rows (set.rows.map (Row.clear (some .violated))) ↔ _
    rw [List.forall₂_map_right_iff, List.forall₂_same]
    exact forall₂_congr fun row _ => (and_iff_right rfl).trans (forall_congr' (marks row))
  rw [IsUntouched, origin, rows]
  exact and_iff_right rfl

/-- **What becomes of a refused check.** When a leaf has an operator that is not built in, the check
fails with the first rule that has one and its unknown operators. By then the set has the new rules,
and no cell has a violation any more; marks of other kinds stay. So the set is as it was exactly
when it had these rules and no violations before. -/
theorem validate_refused_iff (set : ResultSet) (table : TableRule)
    (unknown : ∃ rule ∈ table.rules, ∃ leaf ∈ rule.conditions.leaves,
      Operator.ofName? leaf.operator = none) :
    (∃ before rule behind operators, table.rules = before ++ rule :: behind ∧
      (∀ earlier ∈ before, earlier.UsesBuiltIns) ∧
      (∀ name, name ∈ operators ↔ name ∈ rule.conditions.operators ∧ Operator.ofName? name = none) ∧
      operators ≠ [] ∧ (set.validate table).2 = .error (.unknownOperators rule.name operators)) ∧
    (set.validate table).1.origin = { set.origin with tableRule := some table } ∧
    List.Forall₂ (fun row marked : Row => marked.values = row.values ∧
      ∀ column, marked.marks.of column none =
        (row.marks.of column none).filter fun mark => mark.kind != .violated)
      set.rows (set.validate table).1.rows ∧
    (set.IsUntouched (set.validate table).1 ↔ set.origin.tableRule = some table ∧
      ∀ row ∈ set.rows, ∀ column, row.marks.of column (some .violated) = []) := by
  have missing : ¬ table.UsesBuiltIns := by
    obtain ⟨rule, inside, leaf, member, unnamed⟩ := unknown
    intro known
    have named := known rule inside leaf.operator (List.mem_map_of_mem member)
    rw [unnamed] at named
    cases named
  obtain ⟨before, rule, behind, operators, parts, earlier, names, some_name, outcome⟩ :=
    validate_of_unknown set missing
  refine ⟨⟨before, rule, behind, operators, parts, earlier, names, some_name, ?_⟩, ?_, ?_, ?_⟩
  · rw [outcome]
  · rw [outcome]
    rfl
  · rw [outcome]
    show List.Forall₂ _ set.rows (set.rows.map (Row.clear (some .violated)))
    rw [List.forall₂_map_right_iff, List.forall₂_same]
    exact fun row _ => ⟨rfl, fun column => Marks.of_clear_some row.marks .violated column none⟩
  · rw [outcome]
    exact isUntouched_prepared_iff set table

end ResultSet

/-- A single rule with an operator that is not built in. -/
def TableRule.matching (column : String) : TableRule :=
  ⟨"items", [⟨column ++ " matches", ⟨.all, [.leaf ⟨column, "matches", .null⟩]⟩, ⟨column, 1, []⟩⟩]⟩

theorem TableRule.engineFor_matching (column : String) :
    ResultSet.engineFor (matching column).rules =
    .error (.unknownOperators (column ++ " matches") ["matches"]) := by
  have unknown : Engine.initial.unknownOperators ⟨.all, [.leaf ⟨column, "matches", .null⟩]⟩ =
      ["matches"] := by
    rw [Engine.unknownOperators]
    exact List.mergeSort_singleton "matches"
  simp only [ResultSet.engineFor, matching, List.foldlM_cons, Engine.addRule, Rule.toEngineRule,
    unknown]
  rfl

namespace ResultSet

/-- A row with a violation on its only column. -/
def withViolation : ResultSet :=
  ⟨[.ofName "a"], [(⟨[("a", .null)], .empty⟩ : Row).push "a" (.plain .violated)], .unknown,
    none, none⟩

theorem validate_refused_iff_of_other_column :
    (∃ rule ∈ (TableRule.matching "b").rules, ∃ leaf ∈ rule.conditions.leaves,
      Operator.ofName? leaf.operator = none) ∧
    (∃ name operators, (withViolation.validate (.matching "b")).2 =
      .error (.unknownOperators name operators)) ∧
    (withViolation.IsUntouched (withViolation.validate (.matching "b")).1 ↔
      withViolation.origin.tableRule = some (.matching "b") ∧
        ∀ row ∈ withViolation.rows, ∀ column, row.marks.of column (some .violated) = []) := by
  have unknown : ∃ rule ∈ (TableRule.matching "b").rules, ∃ leaf ∈ rule.conditions.leaves,
      Operator.ofName? leaf.operator = none :=
    ⟨_, List.mem_singleton_self _, _, List.mem_singleton_self _, rfl⟩
  obtain ⟨⟨_, rule, _, operators, -, -, -, -, refused⟩, -, -, untouched⟩ :=
    validate_refused_iff withViolation (.matching "b") unknown
  exact ⟨unknown, ⟨rule.name, operators, refused⟩, untouched⟩

/-- **A refused check takes a violation away**: the rules have an unknown operator, and afterwards
the row has lost its mark and the set names the rules. -/
theorem validate_refused_loses_marks :
    (withViolation.validate (.matching "a")).2 =
      .error (.unknownOperators "a matches" ["matches"]) ∧
      (∀ row ∈ (withViolation.validate (.matching "a")).1.rows, row.marks.of "a" none = []) ∧
      (withViolation.validate (.matching "a")).1.origin.tableRule.isSome ∧
      ¬ withViolation.IsUntouched (withViolation.validate (.matching "a")).1 := by
  have outcome : withViolation.validate (.matching "a") = (withViolation.prepared (.matching "a"),
      .error (.unknownOperators "a matches" ["matches"])) := by
    rw [validate, TableRule.engineFor_matching]
    rfl
  rw [outcome]
  refine ⟨rfl, List.forall_mem_singleton.2 rfl, rfl, fun untouched => ?_⟩
  have named := ((isUntouched_prepared_iff _ _).1 untouched).1
  cases named

end ResultSet

end QueryDesk
