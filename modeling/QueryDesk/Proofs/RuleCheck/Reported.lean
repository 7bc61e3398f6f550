/-
**Which violations a report tells of.**

A check puts its marks on the columns that the rules name, and a report goes along the columns of
the set. So a mark on a column that the set does not have is neither shown nor counted.

* `ResultSet.pushesAt`, `ResultSet.pushedCells` — what a check pushes on a row and on all rows;
  `ResultSet.of_validate` — and what a cell holds of violations afterwards, on any column.
* `ResultSet.markedCells_validate_perm` — those among them that a report comes to.
* `Report.TellsOf` — a report with a line for each of several marks, and their number.
* `ResultSet.validate_reported_iff` — **when a report tells of all violations that a check
  recorded**; `ResultSet.validate_hides_violation` — one that is not told of.
-/

import Mathlib.Data.List.Nodup
import Mathlib.Data.List.Perm.Basic
import QueryDesk.Proofs.RuleCheck.Limits
import QueryDesk.Proofs.RuleCheck.OwnMarks
import QueryDesk.Proofs.Session.MarkLog
import QueryDesk.Report.Kind

namespace QueryDesk

/-- Gathered by distinct names, items are those under one of the names, each as often as before. -/
theorem flatMap_filter_perm {α : Type} (key : α → String) {names : List String}
    (distinct : names.Nodup)
    (items : List α) : (names.flatMap fun name => items.filter fun item => key item == name).Perm
      (items.filter fun item => names.contains (key item)) := by
  induction names with
  | nil => simp
  | cons name rest ih =>
    obtain ⟨once, distinctRest⟩ := List.nodup_cons.1 distinct
    -- the items under one of the names, cut into those under the first and the others
    have parts := List.filter_append_perm (fun item => key item == name)
      (items.filter fun item => (name :: rest).contains (key item))
    have first : (items.filter fun item => (name :: rest).contains (key item)).filter
        (fun item => key item == name) = items.filter fun item => key item == name := by
      rw [List.filter_filter]
      refine List.filter_congr fun item _ => ?_
      by_cases here : key item = name <;> simp [here]
    have others : (items.filter fun item => (name :: rest).contains (key item)).filter
        (fun item => !(key item == name)) = items.filter fun item => rest.contains (key item) := by
      rw [List.filter_filter]
      refine List.filter_congr fun item _ => ?_
      by_cases here : key item = name
      · simp [here, once]
      · simp [here]
    rw [first, others] at parts
    rw [List.flatMap_cons]
    exact ((ih distinctRest).append_left _).trans parts

/-! ### Completed checks -/

namespace ResultSet

variable {set : ResultSet} {table : TableRule} {verdict : Bool}

theorem usesBuiltIns_of_completed (completed : (set.validate table).2 = .ok verdict) :
    table.UsesBuiltIns := by
  by_contra missing
  obtain ⟨_, _, _, _, -, -, -, -, refused⟩ := validate_of_unknown set missing
  rw [refused] at completed
  cases completed

/-! ### What a check pushes -/

/-- What a check pushes on the row at a place, in the order of the rules: the mark of each rule that
has the row among the first ones that violate it, as many as its limit allows. -/
def pushesAt (set : ResultSet) (table : TableRule) (place : Nat) : List (String × Mark) :=
  (set.rows[place]?.map fun row =>
    (table.rules.filter fun rule => ((set.violators rule).take rule.violation.limit).contains
      place).map
      fun rule => (rule.violation.column, rule.violationMark (set.facts row))).getD []

/-- What a check pushes, row by row. -/
def pushedCells (set : ResultSet) (table : TableRule) : List MarkedCell :=
  (List.range set.rows.length).flatMap fun place =>
    (set.pushesAt table place).map fun entry => ⟨place, entry.1, entry.2⟩

theorem mem_pushesAt {place : Nat} {entry : String × Mark} :
    entry ∈ set.pushesAt table place ↔ ∃ row, set.rows[place]? = some row ∧ ∃ rule ∈ table.rules,
      place ∈ (set.violators rule).take rule.violation.limit ∧
        (rule.violation.column, rule.violationMark (set.facts row)) = entry := by
  unfold pushesAt
  cases set.rows[place]? with
  | none => simp
  | some row => simp [and_assoc]

theorem getElem?_rows_validate (completed : (set.validate table).2 = .ok verdict) (place : Nat) :
    (set.validate table).1.rows[place]? = set.rows[place]?.map fun row =>
      (row.clear (some .violated)).pushEach (set.pushesAt table place) := by
  have known := usesBuiltIns_of_completed completed
  rw [validate_eq set known] at completed ⊢
  have rows := rows_of_completed (set.prepared table) table.rules set.readyRows completed
  rw [show (_ : ResultSet × Except Failure Bool).1.rows = _ from rows, getElem?_markedRows,
    readyRows, List.getElem?_map, Option.map_map, List.nil_append]
  refine Option.map_congr fun row found => ?_
  have pushes : (set.prepared table).marksFor table.rules (set.readyRows.take place)
      (row.clear (some .violated)) = set.pushesAt table place := by
    rw [pushesAt, found, Option.map_some, Option.getD_some, marksFor, facts_prepared_clear]
    congr 1
    exact List.filter_congr fun rule _ => marks_iff_mem_violators set table rule found
  exact congrArg (row.clear (some .violated)).pushEach pushes

/-- **What a cell holds of violations after a check** is what the check pushed
on it, on any column. -/
theorem of_validate (completed : (set.validate table).2 = .ok verdict) {place : Nat} {row : Row}
    (found : (set.validate table).1.rows[place]? = some row) (column : String) :
    row.marks.of column (some .violated) = Row.pushedOn column (set.pushesAt table place) := by
  rw [getElem?_rows_validate completed] at found
  obtain ⟨before, -, rfl⟩ := Option.map_eq_some_iff.1 found
  have pushed : (Row.pushedOn column (set.pushesAt table place)).filter
      (Marks.isWanted (some .violated)) = Row.pushedOn column (set.pushesAt table place) := by
    refine List.filter_eq_self.2 fun mark member => ?_
    obtain ⟨entry, inside, rfl⟩ := List.mem_map.1 member
    obtain ⟨_, _, rule, _, _, rfl⟩ := mem_pushesAt.1 (List.mem_of_mem_filter inside)
    rfl
  rw [Marks.of_eq_filter, Row.of_pushEach, List.filter_append, ← Marks.of_eq_filter, Row.clear,
    Marks.of_clear_self, pushed, List.nil_append]

/-- **What a report comes to**: of the marks that a check pushed those on columns of the set. -/
theorem markedCells_validate_perm (distinct : set.names.Nodup)
    (completed : (set.validate table).2 = .ok verdict) :
    ((set.validate table).1.markedCells (some .violated)).Perm
      ((set.pushedCells table).filter fun cell => set.names.contains cell.column) := by
  obtain ⟨keys, rows, -⟩ := validate_keeps set table
  have names : (set.validate table).1.names = set.names := congrArg (List.map ResultKey.name) keys
  have listed := markedCellsFrom_eq set.names (some .violated)
    (fun place column => Row.pushedOn column (set.pushesAt table place))
      (set.validate table).1.rows 0
    fun place row found column => by rw [Nat.zero_add]; exact of_validate completed found column
  rw [markedCells, names, listed, ← rows.length_eq, ← List.range_eq_range', pushedCells,
    List.filter_flatMap]
  refine List.Perm.flatMap_left _ fun place _ => ?_
  have column (name : String) : (Row.pushedOn name (set.pushesAt table place)).map
      (fun mark => (⟨place, name, mark⟩ : MarkedCell)) =
        ((set.pushesAt table place).filter fun entry => entry.1 == name).map
          fun entry => ⟨place, entry.1, entry.2⟩ := by
    rw [Row.pushedOn, List.map_map]
    refine List.map_congr_left fun entry member => ?_
    rw [← eq_of_beq (List.mem_filter.1 member).2]
    rfl
  simp only [column]
  rw [← List.map_flatMap, List.filter_map]
  exact (flatMap_filter_perm Prod.fst distinct (set.pushesAt table place)).map _

/-- A rule marks a row exactly when it may mark one and some row violates it. -/
theorem take_violators_ne_nil_iff (rule : Rule) :
    (set.violators rule).take rule.violation.limit ≠ [] ↔
      0 < rule.violation.limit ∧ ∃ row ∈ set.rows, rule.isViolatedBy (set.facts row) := by
  rw [ne_eq, List.take_eq_nil_iff, not_or, Nat.pos_iff_ne_zero, ← List.length_eq_zero_iff,
    violators, List.length_findIdxs, ← ne_eq, ← ne_eq, ← Nat.pos_iff_ne_zero (n := List.countP _ _),
    List.countP_pos_iff]

/-- A check marks columns of the set only, exactly when every rule that marks a
row names one of them. -/
theorem pushedCells_named_iff : (∀ cell ∈ set.pushedCells table, set.names.contains cell.column) ↔
    ∀ rule ∈ table.rules, 0 < rule.violation.limit →
      (∃ row ∈ set.rows, rule.isViolatedBy (set.facts row)) →
        rule.violation.column ∈ set.names := by
  constructor
  · intro named rule inside limit violated
    obtain ⟨place, first⟩ := List.exists_mem_of_ne_nil _
      ((take_violators_ne_nil_iff rule).2 ⟨limit, violated⟩)
    have bound : place < set.rows.length := by
      have listed := List.lt_add_of_mem_findIdxs _ (List.mem_of_mem_take first)
      omega
    have pushed : (rule.violation.column, rule.violationMark (set.facts set.rows[place])) ∈
        set.pushesAt table place :=
      mem_pushesAt.2 ⟨_, List.getElem?_eq_getElem bound, rule, inside, first, rfl⟩
    exact List.contains_iff_mem.1 (named _ (List.mem_flatMap.2
      ⟨place, List.mem_range.2 bound, List.mem_map_of_mem pushed⟩))
  · intro named cell member
    obtain ⟨place, -, pushed⟩ := List.mem_flatMap.1 member
    obtain ⟨entry, inside, rfl⟩ := List.mem_map.1 pushed
    obtain ⟨row, -, rule, ruled, first, rfl⟩ := mem_pushesAt.1 inside
    obtain ⟨limit, violated⟩ := (take_violators_ne_nil_iff rule).1 (List.ne_nil_of_mem first)
    exact List.contains_iff_mem.2 (named rule ruled limit violated)

theorem filter_markedCells (set : ResultSet) (kind : MarkKind) :
    (set.markedCells none).filter (fun cell => cell.mark.kind == kind) =
      set.markedCells (some kind) := by
  have rows (names : List String) (rows : List Row) : ∀ place,
      (markedCellsFrom names none place rows).filter (fun cell => cell.mark.kind == kind) =
        markedCellsFrom names (some kind) place rows := by
    induction rows with
    | nil => exact fun _ => rfl
    | cons row rest ih =>
      intro place
      rw [markedCellsFrom, markedCellsFrom, List.filter_append, ih, List.filter_flatMap]
      congr 2
      funext column
      rw [List.filter_map, Marks.of_eq_filter row.marks column (some kind)]
      rfl
  exact rows set.names set.rows 0

end ResultSet

/-! ### Reports -/

namespace Report

/-- A report tells of marks of a kind: it is printed, with a line for each of them, and the number
of marks of the kind that it gives is theirs. -/
structure TellsOf (icons : Icons) (set : ResultSet) (summary : Option String) (kind : MarkKind)
    (cells : List ResultSet.MarkedCell) : Prop where
  printed : ReportKind.console.print icons set summary =
    .ok (String.join ((consoleLines icons set summary).flatMap fun line => [line, "\n"]))
  lines : ∃ lines : List String, lines.Perm (cells.map (cellLine icons)) ∧
    lines.Sublist (consoleLines icons set summary)
  counted : countText (set.markedCells none) kind = kind.name ++ ": " ++ toString cells.length

variable {icons : Icons} {set : ResultSet} {summary : Option String} {kind : MarkKind}

theorem print_console_eq_ok_iff {text : String} :
    ReportKind.console.print icons set summary = .ok text ↔
    (∀ cell ∈ set.markedCells none, canTell cell.mark) ∧
      String.join ((consoleLines icons set summary).flatMap fun line => [line, "\n"]) = text := by
  have all : ReportKind.console.canPrint set summary ↔ ∀ cell ∈ set.markedCells none,
    canTell cell.mark :=
    List.all_eq_true
  rw [ReportKind.print, ← all]
  by_cases written : ReportKind.console.canPrint set summary
  · rw [if_pos written, Except.ok.injEq, and_iff_right written]
    rfl
  · rw [if_neg written]
    exact iff_of_false nofun fun told => written told.1

theorem lines_sublist (icons : Icons) (set : ResultSet) (summary : Option String)
    (kind : MarkKind) :
    ((set.markedCells (some kind)).map (cellLine icons)).Sublist
      (consoleLines icons set summary) := by
  rw [← ResultSet.filter_markedCells, consoleLines]
  exact ((List.filter_sublist).map _).trans (List.sublist_append_right _ _)

/-- A report tells of the marks of a kind on columns of the set. -/
theorem tellsOf_of_perm {cells : List ResultSet.MarkedCell}
    (shown : (set.markedCells (some kind)).Perm cells)
    (written : ∀ cell ∈ set.markedCells none, canTell cell.mark) :
    TellsOf icons set summary kind cells where
  printed := print_console_eq_ok_iff.2 ⟨written, rfl⟩
  lines := ⟨_, shown.map _, lines_sublist icons set summary kind⟩
  counted := by rw [countText, ResultSet.filter_markedCells, shown.length_eq]

/-- When a report comes to some of several marks only, it tells of all exactly
when these are all. -/
theorem tellsOf_iff {cells : List ResultSet.MarkedCell} {comesTo : ResultSet.MarkedCell → Bool}
    (shown : (set.markedCells (some kind)).Perm (cells.filter comesTo)) :
    TellsOf icons set summary kind cells ↔
      (∀ cell ∈ set.markedCells none, canTell cell.mark) ∧ ∀ cell ∈ cells, comesTo cell := by
  constructor
  · intro told
    refine ⟨(print_console_eq_ok_iff.1 told.printed).1, ?_⟩
    have counted := told.counted
    rw [countText, ResultSet.filter_markedCells, shown.length_eq, String.append_right_inj]
      at counted
    have digits := congrArg String.toList counted
    rw [Nat.toString_eq_repr, Nat.toString_eq_repr, Nat.toList_repr, Nat.toList_repr,
      Text.toDigits_inj] at digits
    exact List.length_filter_eq_length_iff.1 digits
  · rintro ⟨written, all⟩
    rw [List.filter_eq_self.2 all] at shown
    exact tellsOf_of_perm shown written

end Report

namespace ResultSet

/-- **When a report tells of all violations that a check recorded.** After a completed check, a cell
holds of violations what the check pushed on it, on any column. A report tells of those on columns
of the set, if all that it comes to can be written. So it tells of all exactly when, besides, each
rule that may mark a row, and that some row violates, names a column of the set. -/
theorem validate_reported_iff (set : ResultSet) (table : TableRule) {verdict : Bool}
    (distinct : set.names.Nodup) (completed : (set.validate table).2 = .ok verdict) (icons : Icons)
    (summary : Option String) :
    (∀ (place : Nat) (row : Row), (set.validate table).1.rows[place]? = some row → ∀ column,
      row.marks.of column (some .violated) = Row.pushedOn column (set.pushesAt table place)) ∧
    ((∀ cell ∈ (set.validate table).1.markedCells none, Report.canTell cell.mark) →
      Report.TellsOf icons (set.validate table).1 summary .violated
        ((set.pushedCells table).filter fun cell => set.names.contains cell.column)) ∧
    (Report.TellsOf icons (set.validate table).1 summary .violated (set.pushedCells table) ↔
      (∀ cell ∈ (set.validate table).1.markedCells none, Report.canTell cell.mark) ∧
        ∀ rule ∈ table.rules, 0 < rule.violation.limit →
          (∃ row ∈ set.rows, rule.isViolatedBy (set.facts row)) →
            rule.violation.column ∈ set.names) := by
  have shown := markedCells_validate_perm distinct completed
  refine ⟨fun place row => of_validate completed, Report.tellsOf_of_perm shown, ?_⟩
  rw [Report.tellsOf_iff shown, pushedCells_named_iff]

/-- A report tells of the one violation that is on a column of the set. -/
theorem validate_reported_iff_of_own_column :
    (ofColumn "a" [.null, .int 1]).names.Nodup ∧
      ((ofColumn "a" [.null, .int 1]).validate (.requires "a" 1)).2 = .ok false ∧
      Report.TellsOf .words ((ofColumn "a" [.null, .int 1]).validate (.requires "a" 1)).1 none
        .violated
        ((ofColumn "a" [.null, .int 1]).pushedCells (.requires "a" 1)) := by
  have completed : ((ofColumn "a" [.null, .int 1]).validate (.requires "a" 1)).2 = .ok false := by
    rw [validate_eq _ (TableRule.usesBuiltIns_requires "a" 1)]
    rfl
  have distinct : (ofColumn "a" [.null, .int 1]).names.Nodup := List.nodup_singleton "a"
  refine ⟨distinct, completed,
    (validate_reported_iff _ _ distinct completed .words none).2.2.2
      ⟨?_, fun rule member _ _ => ?_⟩⟩
  · rw [validate_eq _ (TableRule.usesBuiltIns_requires "a" 1)]
    decide +kernel
  · obtain rfl := List.mem_singleton.1 member
    exact List.mem_singleton_self "a"

end ResultSet

namespace TableRule

/-- A single rule, which the rows with nothing in a column violate, and which
marks another column. -/
def requiresAt (column marked : String) : TableRule :=
  ⟨"items", [⟨column ++ " is there", ⟨.all, [.leaf ⟨column, "isNull", .null⟩]⟩, ⟨marked, 1, []⟩⟩]⟩

theorem usesBuiltIns_requiresAt (column marked : String) :
    (requiresAt column marked).UsesBuiltIns := by
  intro rule member name used
  obtain rfl := List.mem_singleton.1 member
  obtain rfl := List.mem_singleton.1 used
  rfl

end TableRule

namespace ResultSet

/-- **A violation that a report does not tell of**: a row violates the rule and is marked on a
column that the set does not have. The check fails, and its report gives no violation. -/
theorem validate_hides_violation :
    ((ofColumn "a" [.null]).validate (.requiresAt "a" "total")).2 = .ok false ∧
      ((ofColumn "a" [.null]).pushedCells (.requiresAt "a" "total")).length = 1 ∧
      Report.consoleLines .words ((ofColumn "a" [.null]).validate (.requiresAt "a" "total")).1
        none =
        ["\n=== result set ===", "Rows: 1 | Add: 0 | Del: 0 | Upd: 0 | Rul: 0"] ∧
      ¬ Report.TellsOf .words ((ofColumn "a" [.null]).validate (.requiresAt "a" "total")).1 none
        .violated
        ((ofColumn "a" [.null]).pushedCells (.requiresAt "a" "total")) := by
  have known := TableRule.usesBuiltIns_requiresAt "a" "total"
  refine ⟨?_, by decide +kernel, ?_, fun told => ?_⟩
  · rw [validate_eq _ known]
    rfl
  · rw [validate_eq _ known]
    decide +kernel
  · have counted := told.counted
    rw [validate_eq _ known] at counted
    revert counted
    decide +kernel

end ResultSet

end QueryDesk
