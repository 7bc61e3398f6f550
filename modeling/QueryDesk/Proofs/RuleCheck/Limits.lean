/-
**Which cells a check marks.**

* `ResultSet.rows_of_completed` — the rows after a completed check are those of a check that looks
  at every row (`markedRows`): where it ends early, nothing is left to be marked.
* `List.mem_take_findIdxs` — a place is among the first so many where a test succeeds when it
  succeeds there and fewer places before have succeeded.
* `ResultSet.validate_marks` — each rule marks the first rows that violate it, as many as its limit
  allows, behind the marks of other kinds and in the order of the rules.
-/

import Mathlib.Data.List.Basic
import QueryDesk.Proofs.Outcomes
import QueryDesk.Proofs.RuleCheck.Completion

namespace QueryDesk.ResultSet

/-! ### A check of every row -/

section Rows

variable (set : ResultSet) (rules : List Rule)

/-- The rows behind the rows passed, each with its marks. -/
def markedRows : List Row → List Row → List Row
  | _, [] => []
  | passed, row :: rest =>
    row.pushEach (set.marksFor rules passed row) :: markedRows (passed ++ [row]) rest

theorem marksFor_of_allSpent {passed : List Row} (spent : set.allSpent rules passed) (row : Row) :
    set.marksFor rules passed row = [] := by
  have none_due : rules.filter (Rule.marks set passed row) = [] := by
    refine List.filter_eq_nil_iff.2 fun rule member => ?_
    unfold Rule.marks
    rw [List.all_eq_true.1 spent rule member]
    simp
  unfold marksFor
  rw [none_due]
  rfl

/-- When nothing more may be marked, rows stay as they are. -/
theorem markedRows_of_allSpent (rows : List Row) :
    ∀ passed : List Row, set.allSpent rules passed → markedRows set rules passed rows = rows := by
  induction rows with
  | nil => exact fun _ _ => rfl
  | cons row rest ih =>
    intro passed spent
    rw [markedRows, marksFor_of_allSpent set rules spent, Row.pushEach_nil,
      ih (passed ++ [row]) (allSpent_append set rules spent [row])]

/-- **The rows after a completed check.** The induction is on the rows: where a rule has no
verdict on the first, the check ends with a failure, and where all rules are used up, no
row is left to be marked. -/
theorem rows_of_completed (rows : List Row) :
    ∀ {passed : List Row} {verdict : Bool},
      (set.checkRows (Engine.ofRules rules) (set.countsAfter rules passed) rows).verdict =
        .ok verdict →
        (set.checkRows (Engine.ofRules rules) (set.countsAfter rules passed) rows).rows =
          markedRows set rules passed rows := by
  induction rows with
  | nil => exact fun _ => rfl
  | cons row rest ih =>
    intro passed verdict completed
    by_cases decides : ∀ rule ∈ rules, rule.Decides (set.facts row)
    · rw [checkRows_cons set rules passed row rest decides] at completed ⊢
      rw [markedRows]
      by_cases spent : set.allSpent rules (passed ++ [row])
      · rw [if_pos spent, markedRows_of_allSpent set rules rest _ spent]
      · rw [if_neg spent] at completed ⊢
        obtain ⟨_, later, -⟩ := map_eq_ok_iff.1 completed
        exact congrArg (_ :: ·) (ih later)
    · obtain ⟨failure, failed⟩ := noResult_checkRows_cons set rules _ rest decides
      rw [failed] at completed
      cases completed

/-- **The early end of a check loses no mark.** -/
theorem rows_checkRows (rows : List Row) :
    ∀ passed : List Row, (∀ row ∈ rows, ∀ rule ∈ rules, rule.Decides (set.facts row)) →
      (set.checkRows (Engine.ofRules rules) (set.countsAfter rules passed) rows).rows =
        markedRows set rules passed rows := by
  intro passed decides
  obtain ⟨_, completed⟩ := verdict_checkRows_ok set rules rows passed decides
  exact rows_of_completed set rules rows completed

theorem getElem?_markedRows (rows : List Row) :
    ∀ (passed : List Row) (place : Nat), (markedRows set rules passed rows)[place]? =
      rows[place]?.map fun row =>
        row.pushEach (set.marksFor rules (passed ++ rows.take place) row) := by
  induction rows with
  | nil => exact fun _ _ => rfl
  | cons row rest ih =>
    intro passed place
    cases place with
    | zero => simp [markedRows]
    | succ place =>
      rw [markedRows, List.getElem?_cons_succ, ih, List.getElem?_cons_succ, List.take_succ_cons,
        List.append_assoc, List.singleton_append]

theorem length_markedRows (rows : List Row) :
    ∀ passed : List Row, (markedRows set rules passed rows).length = rows.length := by
  induction rows with
  | nil => exact fun _ => rfl
  | cons row rest ih =>
    intro passed
    rw [markedRows, List.length_cons, List.length_cons, ih]

end Rows

end QueryDesk.ResultSet

/-! ### The first places of a test -/

/-- A place is among the first `count` places where a test succeeds exactly when it succeeds there
and at fewer than `count` places before. -/
theorem List.mem_take_findIdxs {α : Type} (test : α → Bool) (items : List α) (count place : Nat)
    {item : α} (found : items[place]? = some item) :
    place ∈ (items.findIdxs test).take count ↔
      test item = true ∧ (items.take place).countP test < count := by
  obtain ⟨inside, rfl⟩ := List.getElem?_eq_some_iff.1 found
  have parts : items.findIdxs test = (items.take place).findIdxs test ++
      (items[place] :: items.drop (place + 1)).findIdxs test place := by
    conv_lhs => rw [← List.take_append_drop place items, List.drop_eq_getElem_cons inside,
      List.findIdxs_append]
    rw [List.length_take_of_le (Nat.le_of_lt inside), Nat.zero_add]
  have before : place ∉ (items.take place).findIdxs test := fun member => by
    have bound := List.lt_add_of_mem_findIdxs _ member
    rw [List.length_take_of_le (Nat.le_of_lt inside)] at bound
    omega
  have behind : place ∉ (items.drop (place + 1)).findIdxs test (place + 1) := fun member => by
    have bound := List.ge_of_mem_findIdxs _ member
    omega
  rw [parts, List.take_append, List.mem_append, List.length_findIdxs, List.findIdxs_cons]
  constructor
  · rintro (early | here)
    · exact absurd (List.mem_of_mem_take early) before
    · by_cases succeeds : test items[place]
      · refine ⟨succeeds, ?_⟩
        by_contra enough
        rw [Nat.sub_eq_zero_of_le (Nat.le_of_not_lt enough)] at here
        cases here
      · rw [if_neg succeeds] at here
        exact absurd (List.mem_of_mem_take here) behind
  · rintro ⟨succeeds, fewer⟩
    rw [if_pos succeeds]
    obtain ⟨left, same⟩ := Nat.exists_eq_add_of_lt fewer
    rw [show count - (items.take place).countP test = left + 1 by omega, List.take_succ_cons]
    exact Or.inr List.mem_cons_self

namespace QueryDesk.ResultSet

/-! ### The marks of a set -/

/-- The places of the rows that violate a rule. -/
def violators (set : ResultSet) (rule : Rule) : List Nat :=
  set.rows.findIdxs fun row => rule.isViolatedBy (set.facts row)

/-- A rule marks the first rows that violate it, as many as its limit allows. -/
theorem marks_iff_mem_violators (set : ResultSet) (table : TableRule) (rule : Rule) {place : Nat}
    {row : Row} (found : set.rows[place]? = some row) :
    rule.marks (set.prepared table) (set.readyRows.take place) (row.clear (some .violated)) =
      ((set.violators rule).take rule.violation.limit).contains place := by
  have counted : rule.violations (set.prepared table) (set.readyRows.take place) =
      (set.rows.take place).countP fun other => rule.isViolatedBy (set.facts other) := by
    unfold Rule.violations readyRows
    rw [← List.map_take, List.countP_map]
    rfl
  rw [Bool.eq_iff_iff, List.contains_iff_mem, violators, List.mem_take_findIdxs _ _ _ _ found]
  unfold Rule.marks Rule.isSpent
  rw [counted, facts_prepared_clear, Bool.and_eq_true, Bool.not_eq_true', decide_eq_false_iff_not,
    Nat.not_le]

theorem pushedOn_marksFor (set : ResultSet) (rules : List Rule) (passed : List Row) (row : Row)
    (column : String) :
    Row.pushedOn column (set.marksFor rules passed row) =
      (rules.filter fun rule => rule.violation.column == column && rule.marks set passed row).map
        fun rule => rule.violationMark (set.facts row) := by
  unfold Row.pushedOn marksFor
  rw [List.filter_map, List.map_map, List.filter_filter]
  rfl

/-- **The marks after a check.** A cell holds its marks of other kinds as before, and behind them,
in the order of the rules, one mark of each rule that names the column and has the row among the
first ones that violate it, as many as its limit allows. -/
theorem validate_marks (set : ResultSet) (table : TableRule) (known : table.UsesBuiltIns)
    (decides : table.DecidesAll set) :
    (∃ verdict, (set.validate table).2 = .ok verdict) ∧
      (set.validate table).1.rows.length = set.rows.length ∧
      ∀ (place : Nat) (row : Row), set.rows[place]? = some row →
        ∃ marked, (set.validate table).1.rows[place]? = some marked ∧ marked.values = row.values ∧
          ∀ column : String, marked.marks.of column none =
            (row.marks.of column none).filter (fun mark => mark.kind != .violated) ++
              (table.rules.filter fun rule => rule.violation.column == column &&
                ((set.violators rule).take rule.violation.limit).contains place).map fun rule =>
                  ⟨.violated, some [("name", .text rule.name),
                    ("message", .text ("Error: " ++ rule.name)),
                    ("condition_values",
                      .record (rule.conditions.factValues (set.facts row)))]⟩ := by
  have rows : (set.validate table).1.rows =
      markedRows (set.prepared table) table.rules [] set.readyRows := by
    rw [validate_eq set known]
    exact rows_checkRows (set.prepared table) table.rules set.readyRows []
      (decides_readyRows decides)
  have at_place (place : Nat) : (set.validate table).1.rows[place]? =
      (set.rows[place]?.map (Row.clear (some .violated))).map fun row =>
        row.pushEach
          ((set.prepared table).marksFor table.rules (set.readyRows.take place) row) := by
    rw [rows, getElem?_markedRows, readyRows, List.getElem?_map, List.nil_append]
  refine ⟨?_, ?_, fun place row found => ?_⟩
  · rw [validate_eq set known]
    exact verdict_checkRows_ok (set.prepared table) table.rules set.readyRows []
      (decides_readyRows decides)
  · rw [rows, length_markedRows, readyRows, List.length_map]
  · refine ⟨_, by rw [at_place, found]; rfl, by rw [Row.values_pushEach]; rfl, fun column => ?_⟩
    rw [Row.of_pushEach, pushedOn_marksFor, facts_prepared_clear]
    congr 1
    · exact Marks.of_clear_some row.marks .violated column none
    · congr 1
      exact List.filter_congr fun rule _ => by rw [marks_iff_mem_violators set table rule found]

/-- Of three rows that violate a rule with a limit of two, the second is marked
and the third is not. -/
theorem validate_marks_up_to_limit :
    (TableRule.requires "a" 2).UsesBuiltIns ∧
      (TableRule.requires "a" 2).DecidesAll (ofColumn "a" [.null, .null, .null]) ∧
      (∃ second,
        ((ofColumn "a" [.null, .null, .null]).validate (TableRule.requires "a" 2)).1.rows[1]?
          = some second ∧
        second.marks.of "a" none = [⟨.violated, some [("name", .text "a is there"),
          ("message", .text "Error: a is there"),
          ("condition_values", .record [("a", .null)])]⟩]) ∧
      ∃ third, ((ofColumn "a" [.null, .null, .null]).validate (TableRule.requires "a" 2)).1.rows[2]?
          = some third ∧ third.marks.of "a" none = [] := by
  have known := TableRule.usesBuiltIns_requires "a" 2
  have decides := TableRule.decidesAll_requires "a" 2 (ofColumn "a" [.null, .null, .null])
  have cells := (validate_marks _ _ known decides).2.2
  obtain ⟨second, foundSecond, _, secondMarks⟩ := cells 1 _ rfl
  obtain ⟨third, foundThird, _, thirdMarks⟩ := cells 2 _ rfl
  exact ⟨known, decides, ⟨second, foundSecond, secondMarks "a"⟩, third, foundThird, thirdMarks "a"⟩

end QueryDesk.ResultSet
