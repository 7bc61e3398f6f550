/-
**A check reads no marks, and touches only its own.**

* `Row.SameMarks` — rows with the same values and, on every column, the same marks of certain kinds.
* `markRow_congr`, `ResultSet.checkRows_congr` — rows with the same values get the same verdicts and
  the same new marks, whatever marks they carry: one row first, then all rows by induction.
* `ResultSet.validate_congr` — so a check has the same outcome on two sets with
  the same columns and values.
* `ResultSet.validate_keeps` — marks of other kinds stay as they are, in order, on every cell.
-/

import Mathlib.Data.List.Forall2
import QueryDesk.Rule.Validation

namespace QueryDesk

/-- When a kind of marks is cleared, no column holds one. -/
theorem Marks.of_clear_self (marks : Marks) (kind : MarkKind) (column : String) :
    (marks.clear (some kind)).of column (some kind) = [] := by
  rw [of_clear_some, others, of_eq_filter, List.filter_filter, List.filter_eq_nil_iff]
  intro mark _
  simp [isWanted, bne]

/-! ### Rows with the same marks of certain kinds -/

namespace Row

/-- Rows with the same values and, on every column, the same marks of the kinds that pass a test. -/
def SameMarks (kinds : MarkKind → Bool) (row other : Row) : Prop :=
  row.values = other.values ∧ ∀ column,
    (row.marks.of column none).filter (fun mark => kinds mark.kind) =
      (other.marks.of column none).filter fun mark => kinds mark.kind

/-- The kind of mark that a check puts on cells. -/
def isOwn (kind : MarkKind) : Bool := kind == .violated

/-- The kinds of marks that a check leaves alone. -/
def isForeign (kind : MarkKind) : Bool := kind != .violated

variable {kinds : MarkKind → Bool} {row other : Row}

theorem of_push_none (row : Row) (column pushed : String) (mark : Mark) :
    (row.push pushed mark).marks.of column none =
      row.marks.of column none ++ if column = pushed then [mark] else [] := by
  rw [push, Marks.of_push]
  rfl

/-- The same mark pushed on both rows. -/
theorem SameMarks.push (same : row.SameMarks kinds other) (pushed : String) (mark : Mark) :
    (row.push pushed mark).SameMarks kinds (other.push pushed mark) := by
  refine ⟨same.1, fun column => ?_⟩
  rw [of_push_none, of_push_none, List.filter_append, List.filter_append, same.2 column]

/-- A mark of another kind pushed on one of the rows. -/
theorem SameMarks.push_other (same : row.SameMarks kinds other) (pushed : String) {mark : Mark}
    (unlike : kinds mark.kind = false) : row.SameMarks kinds (other.push pushed mark) := by
  refine ⟨same.1, fun column => ?_⟩
  rw [of_push_none, List.filter_append, same.2 column]
  by_cases here : column = pushed
  · simp [here, unlike]
  · simp [here]

/-- Rows with the same values carry the same marks of a kind once these are taken away. -/
theorem sameMarks_clear (values : row.values = other.values) :
    (row.clear (some .violated)).SameMarks isOwn (other.clear (some .violated)) := by
  refine ⟨values, fun column => ?_⟩
  have gone : ∀ marks : Marks,
      ((marks.clear (some .violated)).of column none).filter (fun mark => isOwn mark.kind) = [] :=
    fun marks => (Marks.of_eq_filter _ column (some .violated)).symm.trans
      (marks.of_clear_self .violated column)
  rw [clear, clear, gone, gone]

/-- Marks of other kinds stay when those of one kind are taken away. -/
theorem sameMarks_clear_foreign (row : Row) :
    row.SameMarks isForeign (row.clear (some .violated)) := by
  refine ⟨rfl, fun column => ?_⟩
  rw [clear, Marks.of_clear_some, Marks.others, List.filter_filter]
  refine List.filter_congr fun mark _ => ?_
  simp [isForeign]

end Row

/-! ### One row -/

/-- **What a row gets does not depend on the marks it carries.** The induction is on the rules, for
all rows with the same marks of the given kinds. -/
theorem markRow_congr (kinds : MarkKind → Bool) (facts : Facts)
    (found : List (CountedRule × Bool)) :
    ∀ {row other : Row}, row.SameMarks kinds other →
      (markRow facts found row).rules = (markRow facts found other).rules ∧
        (markRow facts found row).isClean = (markRow facts found other).isClean ∧
        (markRow facts found row).row.SameMarks kinds (markRow facts found other).row := by
  induction found with
  | nil => exact fun same => ⟨rfl, rfl, same⟩
  | cons entry rest ih =>
    intro row other same
    obtain ⟨counted, holds⟩ := entry
    obtain ⟨rules, clean, rows⟩ := ih same
    unfold markRow
    by_cases violated : holds = true
    · by_cases exhausted : counted.isExhausted = true
      · simp only [violated, exhausted, if_true]
        exact ⟨congrArg (counted :: ·) rules, trivial, rows⟩
      · have next := ih (same.push counted.rule.violation.column (counted.rule.violationMark facts))
        simp only [violated, exhausted, if_true, if_false, Bool.false_eq_true]
        exact ⟨congrArg ({ counted with marked := counted.marked + 1 } :: ·) next.1, trivial,
          next.2.2⟩
    · simp only [violated, if_false, Bool.false_eq_true]
      exact ⟨congrArg (counted :: ·) rules, clean, rows⟩

/-- A row keeps its marks of other kinds. -/
theorem markRow_keeps (facts : Facts) (found : List (CountedRule × Bool)) :
    ∀ {row other : Row}, row.SameMarks Row.isForeign other →
      row.SameMarks Row.isForeign (markRow facts found other).row := by
  induction found with
  | nil => exact fun same => same
  | cons entry rest ih =>
    intro row other same
    obtain ⟨counted, holds⟩ := entry
    unfold markRow
    split
    · split
      · exact ih same
      · exact ih (same.push_other _ rfl)
    · exact ih same

/-! ### All rows -/

namespace ResultSet

theorem facts_congr {set again : ResultSet} (names : set.names = again.names) {row other : Row}
    (values : row.values = other.values) : set.facts row = again.facts other := by
  unfold facts Row.cell?
  rw [names, values]

/-- **The check of rows does not depend on the marks they carry.** The induction is on the rows,
from any counts of the rules. -/
theorem checkRows_congr {set again : ResultSet} (names : set.names = again.names) (engine : Engine)
    (kinds : MarkKind → Bool) {rows others : List Row}
    (same : List.Forall₂ (Row.SameMarks kinds) rows others) : ∀ counted : List CountedRule,
      (set.checkRows engine counted rows).verdict =
        (again.checkRows engine counted others).verdict ∧
        List.Forall₂ (Row.SameMarks kinds) (set.checkRows engine counted rows).rows
          (again.checkRows engine counted others).rows := by
  induction same with
  | nil => exact fun _ => ⟨rfl, .nil⟩
  | @cons row other rest more here others ih =>
    intro counted
    have facts : set.facts row = again.facts other := facts_congr names here.1
    unfold checkRows
    simp only [facts]
    cases verdicts engine (again.facts other) counted with
    | error failure => exact ⟨rfl, .cons here others⟩
    | ok found =>
      obtain ⟨rules, clean, marked⟩ := markRow_congr kinds (again.facts other) found here
      simp only [rules, clean]
      split
      · exact ⟨rfl, .cons marked others⟩
      · obtain ⟨verdict, checked⟩ := ih (markRow (again.facts other) found other).rules
        simp only [verdict]
        exact ⟨trivial, .cons marked checked⟩

/-- Checked rows keep their marks of other kinds, also where the check ends early. -/
theorem checkRows_keeps (set : ResultSet) (engine : Engine) {rows others : List Row}
    (same : List.Forall₂ (Row.SameMarks Row.isForeign) rows others) : ∀ counted : List CountedRule,
      List.Forall₂ (Row.SameMarks Row.isForeign) rows
        (set.checkRows engine counted others).rows := by
  induction same with
  | nil => exact fun _ => .nil
  | @cons row other rest more here others ih =>
    intro counted
    unfold checkRows
    simp only
    split
    · exact .cons here others
    · split
      · exact .cons (markRow_keeps _ _ here) others
      · exact .cons (markRow_keeps _ _ here) (ih _)

/-! ### The whole check -/

theorem forall₂_clear {rows others : List Row}
    (values : rows.map Row.values = others.map Row.values) :
    List.Forall₂ (Row.SameMarks Row.isOwn) (rows.map (Row.clear (some .violated)))
      (others.map (Row.clear (some .violated))) := by
  rw [List.forall₂_map_left_iff, List.forall₂_map_right_iff]
  rw [← List.forall₂_eq_eq_eq, List.forall₂_map_left_iff, List.forall₂_map_right_iff] at values
  exact values.imp fun _ _ => Row.sameMarks_clear

/-- **A check has the same outcome on two sets with the same columns and values**: the same verdict,
and the same marks of its own on every cell. -/
theorem validate_congr {set again : ResultSet} (names : set.names = again.names)
    (values : set.rows.map Row.values = again.rows.map Row.values) (table : TableRule) :
    (set.validate table).2 = (again.validate table).2 ∧
      List.Forall₂ (Row.SameMarks Row.isOwn) (set.validate table).1.rows
        (again.validate table).1.rows := by
  have cleared := forall₂_clear values
  unfold validate
  cases engineFor table.rules with
  | error failure => exact ⟨rfl, cleared⟩
  | ok engine =>
    have ready : (set.prepared table).names = (again.prepared table).names := names
    exact checkRows_congr ready engine Row.isOwn cleared _

/-- **A check leaves all else as it is**: the columns, the values of the rows, and the marks of
other kinds on every cell, in order. -/
theorem validate_keeps (set : ResultSet) (table : TableRule) :
    (set.validate table).1.keys = set.keys ∧
      List.Forall₂ (Row.SameMarks Row.isForeign) set.rows (set.validate table).1.rows ∧
      (set.validate table).1.origin = { set.origin with tableRule := some table } := by
  have cleared : List.Forall₂ (Row.SameMarks Row.isForeign) set.rows (set.prepared table).rows := by
    show List.Forall₂ _ set.rows (set.rows.map (Row.clear (some .violated)))
    rw [List.forall₂_map_right_iff, List.forall₂_same]
    exact fun row _ => row.sameMarks_clear_foreign
  unfold validate
  cases engineFor table.rules with
  | error failure => exact ⟨rfl, cleared, rfl⟩
  | ok engine => exact ⟨rfl, checkRows_keeps _ engine cleared _, rfl⟩

end ResultSet

end QueryDesk
