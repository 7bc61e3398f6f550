/-
**The marks of a row are what its log leaves standing.**

* `RowMarking`, `SetMarking` — a mark pushed or marks cleared, on one row or on all rows of a set;
  `Row.markedBy`, `ResultSet.markedBy` — what is left after several of these steps.
* `standing` — what a log pushed and did not take away later, read off the log alone.
* `Row.FollowsLog` — the marks of a row agree with a log: column by column, with no column left
  empty. One more step keeps that (`Row.FollowsLog.step`), and so does a whole log
  (`Row.FollowsLog.markedBy`).
* `ResultSet.marks_follow_log` — **the marks of a set agree with the logs of its rows**, and they
  are listed row by row and column by column.
-/

import QueryDesk.Proofs.RowMarks
import QueryDesk.ResultSet.Diff

namespace QueryDesk

/-- A step on the marks of a row. -/
inductive RowMarking where
  /-- One more mark on a column. -/
  | push (column : String) (mark : Mark)
  /-- No more marks, of one kind if one is given. -/
  | clear (kind : Option MarkKind)
deriving Repr

/-- A step on the marks of a set. -/
inductive SetMarking where
  /-- A step on one of the rows. -/
  | row (place : Nat) (step : RowMarking)
  /-- No more marks on any row, of one kind if one is given. -/
  | clear (kind : Option MarkKind)
deriving Repr

/-- The row after a step. -/
def Row.step (row : Row) : RowMarking → Row
  | .push column mark => row.push column mark
  | .clear kind => row.clear kind

/-- The row after the steps of a log. -/
def Row.markedBy (row : Row) (log : List RowMarking) : Row := log.foldl step row

/-- The set after a step. -/
def ResultSet.step (set : ResultSet) : SetMarking → ResultSet
  | .row place step => set.withRows (set.rows.modify place fun row => row.step step)
  | .clear kind => set.clear kind

/-- The set after several steps. -/
def ResultSet.markedBy (set : ResultSet) (steps : List SetMarking) : ResultSet :=
  steps.foldl step set

/-! ### What a log leaves standing -/

/-- Whether a step takes marks of a kind away. -/
def RowMarking.takesAway (kind : MarkKind) : RowMarking → Bool
  | .push .. => false
  | .clear none => true
  | .clear (some cleared) => cleared == kind

/-- What was pushed and no later step took away, in the order it was pushed. -/
def standing : List RowMarking → List (String × Mark)
  | [] => []
  | .push column mark :: later =>
    if later.any (RowMarking.takesAway mark.kind) then standing later
    else (column, mark) :: standing later
  | .clear _ :: later => standing later

/-- The marks that stand on a column, of one kind if one is given. -/
def standingOn (log : List RowMarking) (column : String) (kind : Option MarkKind) : List Mark :=
  (Row.pushedOn column (standing log)).filter (Marks.isWanted kind)

/-- What a step does to a row, if it concerns the row at a place. -/
def SetMarking.at? (place : Nat) : SetMarking → Option RowMarking
  | .row other step => if other = place then some step else none
  | .clear kind => some (.clear kind)

/-- The log of the row at a place. -/
def logAt (place : Nat) (steps : List SetMarking) : List RowMarking :=
  steps.filterMap (SetMarking.at? place)

theorem standing_push (log : List RowMarking) (column : String) (mark : Mark) :
    standing (log ++ [.push column mark]) = standing log ++ [(column, mark)] := by
  induction log with
  | nil => rfl
  | cons first later ih =>
    cases first with
    | push other earlier =>
      have same : (later ++ [RowMarking.push column mark]).any (RowMarking.takesAway earlier.kind) =
          later.any (RowMarking.takesAway earlier.kind) := by
        rw [List.any_append]
        exact Bool.or_false _
      rw [List.cons_append, standing, standing, same, ih]
      split <;> rfl
    | clear kind => exact ih

/-- A clearing leaves of what stood the marks of other kinds. -/
theorem standing_clear (log : List RowMarking) (kind : Option MarkKind) :
    standing (log ++ [.clear kind]) =
      (standing log).filter fun entry => !(RowMarking.clear kind).takesAway entry.2.kind := by
  induction log with
  | nil => rfl
  | cons first later ih =>
    cases first with
    | push column mark =>
      rw [List.cons_append, standing, standing, List.any_append, ih]
      by_cases gone : later.any (RowMarking.takesAway mark.kind) = true
      · simp [gone]
      · by_cases cleared : (RowMarking.clear kind).takesAway mark.kind = true
        · simp [gone, cleared]
        · simp [gone, cleared]
    | clear _ => exact ih

theorem pushedOn_filter (column : String) (keep : Mark → Bool) (pushed : List (String × Mark)) :
    Row.pushedOn column (pushed.filter fun entry => keep entry.2) =
      (Row.pushedOn column pushed).filter keep := by
  unfold Row.pushedOn
  rw [List.filter_map, List.filter_filter, List.filter_filter]
  simp only [Function.comp_def, Bool.and_comm]

/-! ### One row -/

/-- The marks of a row agree with a log: a column holds what stands on it, and
none is listed without marks. -/
structure Row.FollowsLog (row : Row) (log : List RowMarking) : Prop where
  held : ∀ column kind, row.marks.of column kind = standingOn log column kind
  none_empty : ∀ entry ∈ row.marks.entries, entry.2 ≠ []

/-- A column whose marks are changed has marks, and the others had theirs before. -/
theorem changeEntry_none_empty {column : String} {change : List Mark → List Mark}
    (changed : ∀ found, change found ≠ []) {entries : List (String × List Mark)}
    (before : ∀ entry ∈ entries, entry.2 ≠ []) :
    ∀ entry ∈ changeEntry column change entries, entry.2 ≠ [] := by
  induction entries with
  | nil => simp [changeEntry, changed]
  | cons first rest ih =>
    obtain ⟨here, others⟩ := List.forall_mem_cons.1 before
    rw [changeEntry]
    split
    · exact List.forall_mem_cons.2 ⟨changed _, others⟩
    · exact List.forall_mem_cons.2 ⟨here, ih others⟩

theorem withoutKind_none_empty (unwanted : MarkKind) (entries : List (String × List Mark)) :
    ∀ entry ∈ Marks.withoutKind unwanted entries, entry.2 ≠ [] := by
  induction entries with
  | nil => simp [Marks.withoutKind]
  | cons first rest ih =>
    rw [Marks.withoutKind]
    split
    · exact ih
    · rename_i left
      exact List.forall_mem_cons.2 ⟨fun empty => left (List.isEmpty_iff.2 empty), ih⟩

/-- **One more step**: the row follows the log that ends with it. -/
theorem Row.FollowsLog.step {row : Row} {log : List RowMarking} (follows : row.FollowsLog log)
    (next : RowMarking) : (row.step next).FollowsLog (log ++ [next]) := by
  cases next with
  | push column mark =>
    constructor
    case held =>
      intro other kind
      show (row.marks.push column mark).of other kind = _
      rw [Marks.of_push, follows.held, standingOn, standingOn, standing_push]
      by_cases same : other = column
      · simp [Row.pushedOn, same]
      · simp [Row.pushedOn, same, Ne.symm same]
    case none_empty =>
      exact changeEntry_none_empty (fun found => by simp) follows.none_empty
  | clear kind =>
    constructor
    case held =>
      intro other wanted
      show (row.marks.clear kind).of other wanted = _
      rw [standingOn, standing_clear,
        pushedOn_filter other fun mark => !(RowMarking.clear kind).takesAway mark.kind]
      cases kind with
      | none => simp [RowMarking.takesAway]
      | some unwanted =>
        rw [Marks.of_clear_some, follows.held, standingOn, Marks.others, List.filter_filter,
          List.filter_filter]
        refine List.filter_congr fun mark _ => ?_
        rw [Bool.and_comm]
        cases mark.kind <;> cases unwanted <;> rfl
    case none_empty =>
      cases kind with
      | none => exact fun entry inside => by cases inside
      | some unwanted => exact withoutKind_none_empty unwanted row.marks.entries

/-- A row without marks follows the log in which nothing happened. -/
theorem Row.followsLog_nil {row : Row} (unmarked : row.marks = .empty) : row.FollowsLog [] := by
  constructor
  case held => exact fun column kind => by rw [unmarked]; rfl
  case none_empty => exact fun entry inside => by rw [unmarked] at inside; cases inside

/-- **A row keeps following its log**, whatever was done before. -/
theorem Row.FollowsLog.markedBy {row : Row} {before : List RowMarking}
    (follows : row.FollowsLog before)
    (log : List RowMarking) : (row.markedBy log).FollowsLog (before ++ log) := by
  induction log generalizing row before with
  | nil => rwa [List.append_nil]
  | cons next rest ih =>
    have tail := ih (follows.step next)
    rwa [List.append_assoc] at tail

/-- There is a mark where the log leaves one standing. -/
theorem Row.FollowsLog.any_iff {row : Row} {log : List RowMarking} (follows : row.FollowsLog log)
    (kind : Option MarkKind) :
    row.marks.any kind = true ↔ ∃ column, standingOn log column kind ≠ [] := by
  rw [Marks.any_iff]
  simp only [follows.held]

/-! ### All rows -/

namespace ResultSet

@[simp] theorem names_step (set : ResultSet) (step : SetMarking) :
    (set.step step).names = set.names := by
  cases step <;> rfl

theorem names_markedBy (set : ResultSet) (steps : List SetMarking) :
    (set.markedBy steps).names = set.names := by
  induction steps generalizing set with
  | nil => rfl
  | cons step rest ih => rw [markedBy, List.foldl_cons, ← markedBy, ih, names_step]

/-- One step reaches the rows it concerns. -/
theorem getElem?_rows_step (set : ResultSet) (step : SetMarking) (place : Nat) :
    (set.step step).rows[place]? =
      set.rows[place]?.map fun row => row.markedBy (step.at? place).toList := by
  cases step with
  | row other next =>
    show (set.rows.modify other fun row => row.step next)[place]? = _
    rw [List.getElem?_modify, SetMarking.at?]
    by_cases here : other = place <;> simp [here, Row.markedBy]
  | clear kind =>
    show (set.rows.map (Row.clear kind))[place]? = _
    rw [List.getElem?_map]
    rfl

/-- Every row has gone through its own log. -/
theorem getElem?_rows_markedBy (set : ResultSet) (steps : List SetMarking) (place : Nat) :
    (set.markedBy steps).rows[place]? =
      set.rows[place]?.map fun row => row.markedBy (logAt place steps) := by
  induction steps generalizing set with
  | nil => simp [markedBy, logAt, Row.markedBy]
  | cons step rest ih =>
    have log : logAt place (step :: rest) = (step.at? place).toList ++ logAt place rest := by
      unfold logAt
      cases here : step.at? place <;> simp [here]
    rw [markedBy, List.foldl_cons, ← markedBy, ih, getElem?_rows_step, Option.map_map, log]
    simp only [Function.comp_def, Row.markedBy, List.foldl_append]

theorem length_rows_markedBy (set : ResultSet) (steps : List SetMarking) :
    (set.markedBy steps).rows.length = set.rows.length := by
  refine Nat.le_antisymm ?_ ?_
  · rw [← List.getElem?_eq_none_iff, getElem?_rows_markedBy, List.getElem?_eq_none (Nat.le_refl _)]
    rfl
  · have beyond := getElem?_rows_markedBy set steps (set.markedBy steps).rows.length
    rw [List.getElem?_eq_none (Nat.le_refl _), eq_comm, Option.map_eq_none_iff] at beyond
    exact List.getElem?_eq_none_iff.1 beyond

/-- The marks of numbered rows, row by row. -/
theorem markedCellsFrom_eq (names : List String) (kind : Option MarkKind)
    (held : Nat → String → List Mark) (rows : List Row) (first : Nat)
    (each : ∀ (place : Nat) (row : Row), rows[place]? = some row →
      ∀ column, row.marks.of column kind = held (first + place) column) :
    markedCellsFrom names kind first rows = (List.range' first rows.length).flatMap fun place =>
      names.flatMap fun column => (held place column).map fun mark => ⟨place, column, mark⟩ := by
  induction rows generalizing first with
  | nil => rfl
  | cons row rest ih =>
    have here : ∀ column, row.marks.of column kind = held first column := each 0 row rfl
    have later := ih (first + 1) fun place other found column => by
      rw [each (place + 1) other found column, Nat.add_right_comm, Nat.add_assoc]
    rw [markedCellsFrom, later, List.length_cons, List.range'_succ, List.flatMap_cons]
    simp only [here]

/-- **The marks of a set agree with the logs of its rows.** A set without marks goes through pushes
and clearings of single rows and of all of them, in any order. Afterwards every column of every row
holds what its log leaves standing, no column is listed without marks, a row has a mark exactly when
its log leaves one standing, and the marks of the set are listed by rows and, within a row, by the
columns in the order of the keys. -/
theorem marks_follow_log (set : ResultSet) (unmarked : ∀ row ∈ set.rows, row.marks = .empty)
    (steps : List SetMarking) :
    (set.markedBy steps).rows.length = set.rows.length ∧
    (∀ (place : Nat) (row : Row), (set.markedBy steps).rows[place]? = some row →
      row.FollowsLog (logAt place steps) ∧
      ∀ kind, row.marks.any kind = true ↔ ∃ column,
        standingOn (logAt place steps) column kind ≠ []) ∧
    ∀ kind, (set.markedBy steps).markedCells kind =
      (List.range set.rows.length).flatMap fun place =>
      set.names.flatMap fun column => (standingOn (logAt place steps) column kind).map fun mark =>
        ⟨place, column, mark⟩ := by
  have follows : ∀ (place : Nat) (row : Row), (set.markedBy steps).rows[place]? = some row →
      row.FollowsLog (logAt place steps) := by
    intro place row found
    rw [getElem?_rows_markedBy] at found
    obtain ⟨before, inside, rfl⟩ := Option.map_eq_some_iff.1 found
    exact (Row.followsLog_nil (unmarked before (List.mem_of_getElem? inside))).markedBy _
  refine ⟨length_rows_markedBy set steps, fun place row found =>
    ⟨follows place row found, (follows place row found).any_iff⟩, fun kind => ?_⟩
  have listed := markedCellsFrom_eq (set.markedBy steps).names kind
    (fun place column => standingOn (logAt place steps) column kind) (set.markedBy steps).rows 0
    fun place row found column => by
      rw [Nat.zero_add]; exact (follows place row found).held column kind
  rw [markedCells, listed, names_markedBy, length_rows_markedBy, List.range_eq_range']

/-- Two rows and two columns: a column that is no key, a clearing of one kind, and one of
all marks of the first row. -/
theorem marks_follow_log_of_two_rows :
    let set : ResultSet :=
  ⟨[.ofName "a", .ofName "b"], [⟨[], .empty⟩, ⟨[], .empty⟩], .unknown, none, none⟩
    let steps : List SetMarking :=
      [.row 0 (.push "a" (.plain .added)), .row 1 (.push "b" (.plain .violated)),
      .row 1 (.push "b" (.plain .added)), .row 1 (.push "c" (.plain .deleted)),
        .clear (some .violated),
      .row 0 (.clear none)]
    (∀ row ∈ set.rows, row.marks = .empty) ∧
      (set.markedBy steps).markedCells none = [⟨1, "b", .plain .added⟩] := by
  intro set steps
  have unmarked : ∀ row ∈ set.rows, row.marks = .empty := by simp [set]
  refine ⟨unmarked, ?_⟩
  rw [(marks_follow_log set unmarked steps).2.2 none]
  rfl

end ResultSet

end QueryDesk
