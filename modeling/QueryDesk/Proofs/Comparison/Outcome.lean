/-
**The exact outcome of comparing two sets.**

* `Carries` — rows that kept their values and carry the marks they are to carry.
* `fault_comparison_iff_reads` — when two sets can be compared by a key.
* `diff_completed` — a comparison that was made used the first available key of the old set, and its
  report is that of the comparison of the cleared rows.
* `ExactOutcome`, `diff_exact` — the marks on every cell of both sets and the counts of the report.
-/

import QueryDesk.Proofs.Comparison.Cells
import QueryDesk.Proofs.Outcomes

namespace QueryDesk

/-- Rows after marks were put on them: each kept its values and carries on every column what it
is to carry at its place. -/
def Carries (rows marked : List Row) (expected : Nat → Row → String → List Mark) : Prop :=
  marked.length = rows.length ∧ ∀ place row, rows[place]? = some row →
    ∃ after, marked[place]? = some after ∧ after.values = row.values ∧
      ∀ column, after.marks.of column none = expected place row column

/-- Rows that carry marks are counted by them as the rows are by a test of what
they are to carry. -/
theorem Carries.countP {rows marked : List Row} {expected : Nat → Row → String → List Mark}
    (carries : Carries rows marked expected) (kind : MarkKind) (test : Row → Bool)
    (decided : ∀ place row, rows[place]? = some row → (test row = true ↔
      ∃ column, (expected place row column).filter (Marks.isWanted (some kind)) ≠ [])) :
    marked.countP (fun row => row.marks.any (some kind)) = rows.countP test := by
  have same : marked.map (fun row => row.marks.any (some kind)) = rows.map test := by
    refine List.ext_getElem? fun place => ?_
    rw [List.getElem?_map, List.getElem?_map]
    cases here : rows[place]? with
    | none =>
      have outside := List.getElem?_eq_none_iff.1 here
      rw [List.getElem?_eq_none (by rw [carries.1]; exact outside)]
      rfl
    | some row =>
      obtain ⟨after, there, -, marks⟩ := carries.2 place row here
      rw [there]
      refine congrArg some (Bool.eq_iff_iff.2 ?_)
      rw [Marks.any_iff, decided place row here]
      refine exists_congr fun column => ?_
      rw [Marks.of_eq_filter, marks]
  have counted := congrArg (List.countP id) same
  rw [List.countP_map, List.countP_map] at counted
  exact counted

/-! ### Cleared rows -/

theorem find?_cleared (test : Row → Bool) (blind : ∀ row, test (row.clear none) = test row)
    (rows : List Row) :
    (rows.map (Row.clear none)).find? test = (rows.find? test).map (Row.clear none) := by
  rw [List.find?_map]
  exact congrArg (fun test => (rows.find? test).map (Row.clear none)) (funext blind)

/-- What an old row is to carry does not depend on earlier marks. -/
theorem oldMarks_cleared (key : CompareKey) (columns : List String) (new : List Row) (row : Row)
    (column : String) :
    oldMarks key columns (new.map (Row.clear none)) (row.clear none) column =
      oldMarks key columns new row column := by
  unfold oldMarks
  rw [show key.agree (row.clear none) = key.agree row from rfl,
    find?_cleared (key.agree row) (fun _ => rfl)]
  cases new.find? (key.agree row) <;> rfl

/-- What a new row is to carry does not depend on earlier marks. -/
theorem newMarks_cleared (key : CompareKey) (columns : List String) (old earlier : List Row)
    (row : Row) (column : String) :
    newMarks key columns (old.map (Row.clear none)) (earlier.map (Row.clear none)) (row.clear none)
      column = newMarks key columns old earlier row column := by
  unfold newMarks
  rw [List.any_map, List.any_map, List.filter_map, List.map_map]
  rfl

/-! ### Rows that carry a kind of mark -/

/-- An old row carries an update when it has a counterpart that differs from it. -/
theorem oldMarks_updated_iff (key : CompareKey) (columns : List String) (new : List Row)
    (row : Row) :
    ((new.find? (key.agree row)).any fun other => columns.any (textsDiffer row other)) = true ↔
      ∃ column, (oldMarks key columns new row column).filter
        (Marks.isWanted (some .updated)) ≠ [] := by
  unfold oldMarks
  cases new.find? (key.agree row) with
  | none =>
    refine iff_of_false nofun ?_
    rintro ⟨column, some_mark⟩
    refine some_mark ?_
    by_cases inside : column ∈ columns
    · rw [if_pos inside]
      rfl
    · rw [if_neg inside]
      rfl
  | some other =>
    show columns.any (textsDiffer row other) = true ↔ _
    rw [List.any_eq_true]
    refine exists_congr fun column => ?_
    by_cases inside : column ∈ columns
    · cases differs : textsDiffer row other column <;>
        simp [inside, differs, updateMark, Marks.isWanted]
    · simp [inside]

/-- A new row carries an addition when it has no counterpart, if there is any column at all. -/
theorem newMarks_added_iff (key : CompareKey) {columns : List String} (some_column : columns ≠ [])
    (old earlier : List Row) (row : Row) :
    (!old.any (key.agree · row)) = true ↔
      ∃ column, (newMarks key columns old earlier row column).filter
        (Marks.isWanted (some .added)) ≠ [] := by
  obtain ⟨first, rest, rfl⟩ := List.exists_cons_of_ne_nil some_column
  unfold newMarks
  cases old.any (key.agree · row) with
  | false => exact iff_of_true rfl ⟨first, by simp [Mark.plain, Marks.isWanted]⟩
  | true =>
    refine iff_of_false nofun ?_
    rintro ⟨column, some_mark⟩
    refine some_mark (List.filter_eq_nil_iff.2 fun mark member => ?_)
    by_cases inside : column ∈ first :: rest
    · rw [if_pos inside, if_pos rfl] at member
      split at member
      · cases member
      · obtain ⟨other, _, rfl⟩ := List.mem_map.1 member
        exact Bool.false_ne_true
    · rw [if_neg inside] at member
      cases member

/-! ### The comparison of two sets -/

/-- The comparison of the cleared rows of two sets by a key. -/
def ResultSet.comparison (key : CompareKey) (old new : ResultSet) : Comparison :=
  .ofRows key old.names (old.rows.map (Row.clear none)) (new.rows.map (Row.clear none))

theorem reportOf_eq_ok_iff {found : Comparison} {report : DiffReport} :
    ResultSet.reportOf found = .ok report ↔ found.fault = none ∧ report = .ofComparison found := by
  unfold ResultSet.reportOf
  cases found.fault with
  | some reason => simp
  | none => simp [eq_comm]

/-- A comparison by the key that was chosen: the edits are carried out on the cleared rows. -/
theorem diff_of_key {old new : ResultSet} {key : CompareKey} (chosen : old.matchingKey = .ok key) :
    diff old new = ⟨old.withRows (applyEdits .old (old.comparison key new).edits
        (old.rows.map (Row.clear none))),
      new.withRows (applyEdits .new (old.comparison key new).edits (new.rows.map (Row.clear none))),
      ResultSet.reportOf (old.comparison key new)⟩ := by
  unfold diff
  rw [chosen]
  rfl

/-- **A comparison that was made** used the first available key of the old set; its report and its
edits are those of the comparison of the cleared rows. -/
theorem diff_completed {old new : ResultSet} {report : DiffReport}
    (completed : (diff old new).report = .ok report) (compared : report.ok = true) :
    ∃ key, old.matchingKey = .ok key ∧ (old.comparison key new).fault = none ∧
      report = .ofComparison (old.comparison key new) ∧
      diff old new = ⟨old.withRows (applyEdits .old (old.comparison key new).edits
          (old.rows.map (Row.clear none))),
        new.withRows (applyEdits .new (old.comparison key new).edits
          (new.rows.map (Row.clear none))), .ok report⟩ := by
  cases chosen : old.matchingKey with
  | error message =>
    unfold diff at completed
    rw [chosen] at completed
    cases completed
    cases compared
  | ok key =>
    have outcome := @diff_of_key old new key chosen
    rw [outcome] at completed
    obtain ⟨fault, same⟩ := reportOf_eq_ok_iff.1 completed
    exact ⟨key, rfl, fault, same, outcome.trans (congrArg (DiffOutcome.mk _ _) completed)⟩

/-- Edits carried out on cleared rows leave what the rows are to carry. -/
theorem carries_applyEdits (side : Side) (edits : List Edit) (rows : List Row)
    (expected : Nat → Row → String → List Mark)
    (marks : ∀ place row, rows[place]? = some row →
      ∀ column, marksAt side place column edits = expected place row column) :
    Carries rows (applyEdits side edits (rows.map (Row.clear none))) expected := by
  refine ⟨by rw [length_applyEdits, List.length_map], fun place row here => ?_⟩
  refine ⟨(row.clear none).pushEach (pushesAt side place edits), ?_, ?_, fun column => ?_⟩
  · rw [getElem?_applyEdits, List.getElem?_map, here]
    rfl
  · rw [Row.values_pushEach]
    rfl
  · rw [Row.of_pushEach, pushedOn_pushesAt, marks place row here column]
    rfl

theorem CompareKey.compares_cleared (key : CompareKey) (columns : List String)
    (old new : List Row) :
    key.Compares columns (old.map (Row.clear none)) (new.map (Row.clear none)) ↔
      key.Compares columns old new := by
  unfold Compares
  rw [List.forall_mem_map]
  refine forall₂_congr fun row _ => ?_
  rw [show key.agree (row.clear none) = key.agree row from rfl,
    find?_cleared (key.agree row) (fun _ => rfl)]
  simp only [Option.map_eq_some_iff]
  constructor
  · exact fun all other found => all (other.clear none) ⟨other, found, rfl⟩
  · rintro all _ ⟨other, found, rfl⟩
    exact all other found

/-- **When two sets can be compared by a key**: the marks that their rows
carried before do not matter. -/
theorem fault_comparison_iff_reads (key : CompareKey) (old new : ResultSet) :
    (old.comparison key new).fault = none ↔
      (∀ row ∈ old.rows, key.reads row) ∧ (∀ row ∈ new.rows, key.reads row) ∧
        key.Compares old.names old.rows new.rows := by
  refine (Comparison.fault_ofRows_iff ..).trans ?_
  rw [List.forall_mem_map, List.forall_mem_map, CompareKey.compares_cleared]
  rfl

section Completed

variable {key : CompareKey} {old new : ResultSet} (fault : (old.comparison key new).fault = none)

include fault

/-- The old rows carry what they are to carry, whatever marks they had before. -/
theorem carries_old (distinct : old.names.Nodup) :
    Carries old.rows
      (applyEdits .old (old.comparison key new).edits (old.rows.map (Row.clear none)))
      fun _ => oldMarks key old.names new.rows := by
  refine carries_applyEdits .old _ old.rows _ fun place row here column => ?_
  have cleared : (old.rows.map (Row.clear none))[place]? = some (row.clear none) := by
    rw [List.getElem?_map, here]
    rfl
  exact (marksAt_old key distinct column fault cleared).trans (oldMarks_cleared ..)

/-- The new rows carry what they are to carry, whatever marks they had before. -/
theorem carries_new (distinct : old.names.Nodup) :
    Carries new.rows
      (applyEdits .new (old.comparison key new).edits (new.rows.map (Row.clear none)))
      fun place => newMarks key old.names old.rows (new.rows.take place) := by
  refine carries_applyEdits .new _ new.rows _ fun place row here column => ?_
  have cleared : (new.rows.map (Row.clear none))[place]? = some (row.clear none) := by
    rw [List.getElem?_map, here]
    rfl
  refine (marksAt_new key distinct column fault cleared).trans ?_
  rw [← List.map_take]
  exact newMarks_cleared ..

/-- The counts of a completed comparison, by the rows of the two sets. -/
theorem counts_comparison :
    (old.comparison key new).deleted = old.rows.countP (fun row => !new.rows.any (key.agree row)) ∧
    (old.comparison key new).updated = old.rows.countP (fun row =>
      (new.rows.find? (key.agree row)).any fun other => old.names.any (textsDiffer row other)) ∧
    (old.comparison key new).inserted =
      new.rows.countP (fun row => !old.rows.any (key.agree · row)) := by
  have found := Comparison.completed key fault
  have counterpart : ∀ row : Row,
    (new.rows.map (Row.clear none)).find? (key.agree (row.clear none)) =
      (new.rows.find? (key.agree row)).map (Row.clear none) :=
    fun row => find?_cleared (key.agree row) (fun _ => rfl) new.rows
  have agrees : ∀ row : Row, (old.rows.map (Row.clear none)).any (key.agree · (row.clear none)) =
      old.rows.any (key.agree · row) := by
    intro row
    rw [List.any_map]
    rfl
  refine ⟨?_, ?_, ?_⟩
  · rw [ResultSet.comparison, found]
    show List.countP _ (old.rows.map (Row.clear none)) = _
    rw [List.countP_map]
    refine congrArg (List.countP · old.rows) (funext fun row => ?_)
    rw [Function.comp_apply, counterpart, Option.isNone_map, ← Option.not_isSome, List.isSome_find?]
  · rw [ResultSet.comparison, found]
    show List.countP _ (old.rows.map (Row.clear none)) = _
    rw [List.countP_map]
    refine congrArg (List.countP · old.rows) (funext fun row => ?_)
    rw [Function.comp_apply, counterpart, Option.any_map]
    rfl
  · rw [ResultSet.comparison, found]
    show List.countP _ (new.rows.map (Row.clear none)) = _
    rw [List.countP_map]
    refine congrArg (List.countP · new.rows) (funext fun row => ?_)
    rw [Function.comp_apply, agrees]

end Completed

/-! ### The outcome -/

/-- The exact outcome of a comparison by a key. Nothing but marks changes, and every row
carries what it is to carry. What is counted are the old rows without a counterpart, the old
rows that carry an update, and the new rows without a counterpart, which carry an addition
where the old set has columns. -/
structure ExactOutcome (key : CompareKey) (old new : ResultSet) (outcome : DiffOutcome)
    (report : DiffReport) : Prop where
  old_kept : outcome.old = old.withRows outcome.old.rows
  new_kept : outcome.new = new.withRows outcome.new.rows
  old_marks : Carries old.rows outcome.old.rows fun _ => oldMarks key old.names new.rows
  new_marks : Carries new.rows outcome.new.rows fun place =>
    newMarks key old.names old.rows (new.rows.take place)
  deleted : report.deleted = old.rows.countP fun row => !new.rows.any (key.agree row)
  updated : report.updated = outcome.old.rows.countP fun row => row.marks.any (some .updated)
  inserted : report.inserted = new.rows.countP fun row => !old.rows.any (key.agree · row)
  inserted_marks : old.names ≠ [] →
    report.inserted = outcome.new.rows.countP fun row => row.marks.any (some .added)

/-- **The exact outcome of a comparison that was made**, whatever marks the sets had before. -/
theorem diff_exact {old new : ResultSet} (distinct : old.names.Nodup) {report : DiffReport}
    (completed : (diff old new).report = .ok report) (compared : report.ok = true) :
    ∃ key, old.matchingKey = .ok key ∧ ExactOutcome key old new (diff old new) report := by
  obtain ⟨key, chosen, fault, rfl, outcome⟩ := diff_completed completed compared
  have oldCarries := carries_old fault distinct
  have newCarries := carries_new fault distinct
  obtain ⟨deletions, updates, insertions⟩ := counts_comparison fault
  refine ⟨key, chosen, ?_⟩
  rw [outcome]
  constructor
  case old_kept => rfl
  case new_kept => rfl
  case old_marks => exact oldCarries
  case new_marks => exact newCarries
  case deleted => exact deletions
  case updated =>
    exact updates.trans (oldCarries.countP .updated _ fun _ row _ =>
      oldMarks_updated_iff key old.names new.rows row).symm
  case inserted => exact insertions
  case inserted_marks =>
    intro some_column
    exact insertions.trans (newCarries.countP .added _ fun place row _ =>
      newMarks_added_iff key some_column old.rows (new.rows.take place) row).symm

/-- A set with a key to match its rows by. -/
def ResultSet.keyedBy (key : CompareKey) (columns : List String)
    (rows : List (List (String × Value))) : ResultSet :=
  ⟨columns.map .ofName, rows.map fun values => ⟨values, .empty⟩,
    { Provenance.unknown with compareKeys := some [key] }, none, none⟩

/-- Two old rows and two new ones under the number one, an old row under the truth value, which is
another key, and a new row under a key of its own. -/
theorem diff_exact_of_repeated_keys :
    let old : ResultSet := .keyedBy (.unique "id") ["id", "name"]
      [[("id", .int 1), ("name", .text "a")], [("id", .bool true)], [("id", .int 1)]]
    let new : ResultSet := .keyedBy (.unique "id") ["id", "name"]
      [[("id", .int 1), ("name", .text "b")], [("id", .int 2)], [("id", .int 1)]]
    let report : DiffReport := ⟨true, 1, 1, 2, "Inserted:1, Deleted:1, Updated:2"⟩
    old.names.Nodup ∧ (diff old new).report = .ok report ∧ report.ok = true ∧
      ∃ key, old.matchingKey = .ok key ∧ ExactOutcome key old new (diff old new) report := by
  intro old new report
  have distinct : old.names.Nodup := by decide
  have completed : (diff old new).report = .ok report := eq_ok_of_toOption (by decide +kernel)
  exact ⟨distinct, completed, rfl, diff_exact distinct completed rfl⟩

/-- **Insertions can be counted without being marked**: without columns a new row that has no
counterpart carries no addition. -/
theorem diff_inserts_unmarked :
    let old : ResultSet := .keyedBy (.composite .primary []) [] []
    let new : ResultSet := .keyedBy (.composite .primary []) [] [[]]
    old.names.Nodup ∧
      (diff old new).report = .ok ⟨true, 1, 0, 0, "Inserted:1, Deleted:0, Updated:0"⟩ ∧
      (diff old new).new.rows.countP (fun row => row.marks.any (some .added)) = 0 := by
  intro old new
  exact ⟨by decide, eq_ok_of_toOption (by decide +kernel), by decide +kernel⟩

end QueryDesk
