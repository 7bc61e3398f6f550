/-
**The marks of a comparison are an edit script.**

* `Row.replayed?`, `Row.addition?`, `DiffOutcome.replay` — the marks carried out: old
  rows without the deleted ones, every updated cell with the value its mark shows, and
  the new rows that were added.
* `mem_marksAt_old`, `mem_marksAt_new` — which marks a comparison puts on a cell, also where a
  column is named twice and so marked twice.
* `diff_replay` — when no two rows of a set share a key, the marks carried out on the old rows give
  the new ones; without changes the two sets hold the same texts.
-/

import Mathlib.Data.List.Dedup
import QueryDesk.Proofs.Comparison.Outcome
import QueryDesk.Proofs.Matching.Partners

namespace QueryDesk

/-! ### Marks carried out -/

/-- The value that a mark shows in place of the one in its cell. -/
def Mark.otherValue? (mark : Mark) : Option Value := mark.values.bind (·.lookup "other_value")

namespace Row

/-- A row read as text over some columns; what is nothing or absent is the empty text. -/
def texts (columns : List String) (row : Row) : List String :=
  columns.map fun column => (row.cell column).bareText

/-- A cell with its updates carried out in order. -/
def updatedCell (row : Row) (column : String) : Value :=
  (row.marks.of column (some .updated)).foldl (fun value mark => mark.otherValue?.getD value)
    (row.cell column)

/-- What an old row becomes when its marks are carried out, unless it was deleted. -/
def replayed? (columns : List String) (row : Row) : Option (List String) :=
  if row.marks.any (some .deleted) then none
  else some (columns.map fun column => (row.updatedCell column).bareText)

/-- A new row, if it was added. -/
def addition? (columns : List String) (row : Row) : Option (List String) :=
  if row.marks.any (some .added) then some (row.texts columns) else none

end Row

/-- The rows that the marks of a comparison lead to, read as text over the old columns. -/
def DiffOutcome.replay (outcome : DiffOutcome) : List (List String) :=
  outcome.old.rows.filterMap (Row.replayed? outcome.old.names) ++
    outcome.new.rows.filterMap (Row.addition? outcome.old.names)

/-! ### Columns named twice -/

section Columns

variable {columns others : List String} (same : ∀ column, column ∈ columns ↔ column ∈ others)

include same in
/-- The edits for a row are the same ones whether or not a column is named twice. -/
theorem mem_editsOfRow_congr (side : Side) (place : Nat) (kind : MarkKind) (edit : Edit) :
    edit ∈ editsOfRow side place columns kind ↔ edit ∈ editsOfRow side place others kind := by
  unfold editsOfRow
  rw [List.mem_map, List.mem_map]
  simp only [same]

include same in
theorem mem_editsOfPair_congr (old new : KeyedRow) (edit : Edit) :
    edit ∈ editsOfPair columns old new ↔ edit ∈ editsOfPair others old new := by
  unfold editsOfPair
  rw [List.mem_flatMap, List.mem_flatMap]
  simp only [List.mem_filter, same]

include same in
theorem mem_editsOfOldRow_congr (matches? : KeyedRow → KeyedRow → Bool) (new : List KeyedRow)
    (row : KeyedRow) (edit : Edit) :
    edit ∈ Comparison.editsOfOldRow matches? columns new row ↔
      edit ∈ Comparison.editsOfOldRow matches? others new row := by
  unfold Comparison.editsOfOldRow
  cases new.find? (matches? row) with
  | none => exact mem_editsOfRow_congr same .old row.place .deleted edit
  | some other => exact mem_editsOfPair_congr same row other edit

include same in
/-- Whether a comparison is completed does not depend on how often a column is named. -/
theorem fault_ofRows_congr (key : CompareKey) (old new : List Row) :
    (Comparison.ofRows key columns old new).fault = none ↔
      (Comparison.ofRows key others old new).fault = none := by
  rw [Comparison.fault_ofRows_iff, Comparison.fault_ofRows_iff]
  unfold CompareKey.Compares Row.HasTexts
  simp only [same]

include same in
/-- **The edits of a completed comparison** are the same ones whether or not a
column is named twice. -/
theorem mem_edits_ofRows_congr {key : CompareKey} {old new : List Row}
    (completed : (Comparison.ofRows key columns old new).fault = none) (edit : Edit) :
    edit ∈ (Comparison.ofRows key columns old new).edits ↔
      edit ∈ (Comparison.ofRows key others old new).edits := by
  have again := (fault_ofRows_congr same key old new).1 completed
  rw [Comparison.completed key completed, Comparison.completed key again]
  show edit ∈ _ ++ List.flatMap _ _ ↔ edit ∈ _ ++ List.flatMap _ _
  rw [List.mem_append, List.mem_append, List.mem_flatMap, List.mem_flatMap, List.mem_flatMap,
    List.mem_flatMap]
  refine or_congr (exists_congr fun row => and_congr_right fun _ => ?_)
    (exists_congr fun row => and_congr_right fun _ => ?_)
  · exact mem_editsOfOldRow_congr same _ _ row edit
  · exact mem_editsOfRow_congr same .new row.place .added edit

theorem mem_marksAt {side : Side} {place : Nat} {column : String} {edits : List Edit}
    {mark : Mark} :
    mark ∈ marksAt side place column edits ↔
      ∃ edit ∈ edits, (edit.side = side ∧ edit.row = place ∧ edit.column = column) ∧
        edit.mark = mark := by
  unfold marksAt
  simp only [List.mem_map, List.mem_filter, Bool.and_eq_true, beq_iff_eq, and_assoc]

include same in
theorem oldMarks_congr (key : CompareKey) (new : List Row) (row : Row) (column : String) :
    oldMarks key columns new row column = oldMarks key others new row column := by
  unfold oldMarks
  simp only [same]

include same in
theorem newMarks_congr (key : CompareKey) (old earlier : List Row) (row : Row) (column : String) :
    newMarks key columns old earlier row column = newMarks key others old earlier row column := by
  unfold newMarks
  simp only [same]

end Columns

section Members

variable {key : CompareKey} {columns : List String} {old new : List Row}
  (completed : (Comparison.ofRows key columns old new).fault = none)
  {place : Nat} {row : Row} (column : String) (mark : Mark)

include completed in
/-- **The marks on an old row**, once or more often each. -/
theorem mem_marksAt_old (here : old[place]? = some row) :
    mark ∈ marksAt .old place column (Comparison.ofRows key columns old new).edits ↔
      mark ∈ oldMarks key columns new row column := by
  have same : ∀ column, column ∈ columns ↔ column ∈ columns.dedup := fun _ => List.mem_dedup.symm
  have again := (fault_ofRows_congr same key old new).1 completed
  rw [oldMarks_congr same, ← marksAt_old key (List.nodup_dedup columns) column again here,
    mem_marksAt, mem_marksAt]
  simp only [mem_edits_ofRows_congr same completed]

include completed in
/-- **The marks on a new row**, once or more often each. -/
theorem mem_marksAt_new (here : new[place]? = some row) :
    mark ∈ marksAt .new place column (Comparison.ofRows key columns old new).edits ↔
      mark ∈ newMarks key columns old (new.take place) row column := by
  have same : ∀ column, column ∈ columns ↔ column ∈ columns.dedup := fun _ => List.mem_dedup.symm
  have again := (fault_ofRows_congr same key old new).1 completed
  rw [newMarks_congr same, ← marksAt_new key (List.nodup_dedup columns) column again here,
    mem_marksAt, mem_marksAt]
  simp only [mem_edits_ofRows_congr same completed]

end Members

/-! ### Rows that show marks -/

/-- Rows after marks were put on them: each kept its values and shows on every column the marks it
is to show at its place, each once or more often. -/
def Shows (rows marked : List Row) (expected : Nat → Row → String → List Mark) : Prop :=
  marked.length = rows.length ∧ ∀ place row, rows[place]? = some row →
    ∃ after, marked[place]? = some after ∧ after.values = row.values ∧
      ∀ column mark, mark ∈ after.marks.of column none ↔ mark ∈ expected place row column

/-- Something read off the rows after marks were put on them, and off the rows before. -/
theorem Shows.filterMap_eq {rows marked : List Row} {expected : Nat → Row → String → List Mark}
    (shows : Shows rows marked expected) {α : Type} {read reads : Row → Option α}
    (same : ∀ place row after, rows[place]? = some row → after.values = row.values →
      (∀ column mark, mark ∈ after.marks.of column none ↔ mark ∈ expected place row column) →
        read after = reads row) :
    marked.filterMap read = rows.filterMap reads := by
  have along : marked.map read = rows.map reads := by
    refine List.ext_getElem? fun place => ?_
    rw [List.getElem?_map, List.getElem?_map]
    cases here : rows[place]? with
    | none =>
      have outside := List.getElem?_eq_none_iff.1 here
      rw [List.getElem?_eq_none (by rw [shows.1]; exact outside)]
      rfl
    | some row =>
      obtain ⟨after, there, values, marks⟩ := shows.2 place row here
      rw [there]
      exact congrArg some (same place row after here values marks)
  have found := congrArg (List.filterMap id) along
  rwa [List.filterMap_map, List.filterMap_map] at found

/-- A row carries a mark of a kind when one of this kind is among those it is to show. -/
theorem any_iff_of_mem {row : Row} {expected : String → List Mark} (kind : MarkKind)
    (marks : ∀ column mark, mark ∈ row.marks.of column none ↔ mark ∈ expected column) :
    row.marks.any (some kind) = true ↔
      ∃ column, (expected column).filter (Marks.isWanted (some kind)) ≠ [] := by
  rw [Marks.any_iff]
  refine exists_congr fun column => ?_
  rw [Marks.of_eq_filter, ne_eq, ne_eq, List.filter_eq_nil_iff, List.filter_eq_nil_iff]
  simp only [marks]

section Completed

variable {key : CompareKey} {old new : ResultSet} (fault : (old.comparison key new).fault = none)

include fault

theorem shows_old :
    Shows old.rows (applyEdits .old (old.comparison key new).edits (old.rows.map (Row.clear none)))
      fun _ => oldMarks key old.names new.rows := by
  have carries := carries_applyEdits .old (old.comparison key new).edits old.rows
    (fun place _ column => marksAt .old place column (old.comparison key new).edits)
    fun _ _ _ _ => rfl
  refine ⟨carries.1, fun place row here => ?_⟩
  obtain ⟨after, there, values, marks⟩ := carries.2 place row here
  refine ⟨after, there, values, fun column mark => ?_⟩
  have cleared : (old.rows.map (Row.clear none))[place]? = some (row.clear none) := by
    rw [List.getElem?_map, here]
    rfl
  have marked := mem_marksAt_old fault column mark cleared
  rw [oldMarks_cleared] at marked
  rw [marks column]
  exact marked

theorem shows_new :
    Shows new.rows (applyEdits .new (old.comparison key new).edits (new.rows.map (Row.clear none)))
      fun place => newMarks key old.names old.rows (new.rows.take place) := by
  have carries := carries_applyEdits .new (old.comparison key new).edits new.rows
    (fun place _ column => marksAt .new place column (old.comparison key new).edits)
    fun _ _ _ _ => rfl
  refine ⟨carries.1, fun place row here => ?_⟩
  obtain ⟨after, there, values, marks⟩ := carries.2 place row here
  refine ⟨after, there, values, fun column mark => ?_⟩
  have cleared : (new.rows.map (Row.clear none))[place]? = some (row.clear none) := by
    rw [List.getElem?_map, here]
    rfl
  have marked := mem_marksAt_new fault column mark cleared
  rw [← List.map_take, newMarks_cleared] at marked
  rw [marks column]
  exact marked

end Completed

/-! ### What the marks lead to -/

section Replay

variable {key : CompareKey} {columns : List String} (some_column : columns ≠ [])

/-- Marks that all show one value leave this value, if there are any. -/
theorem foldl_otherValue {shown : Value} :
    ∀ {marks : List Mark} (start : Value), (∀ mark ∈ marks, mark.otherValue? = some shown) →
      marks.foldl (fun value mark => mark.otherValue?.getD value) start =
        if marks = [] then start else shown
  | [], _, _ => rfl
  | mark :: rest, start, all => by
    have here := all mark List.mem_cons_self
    have others := foldl_otherValue shown fun other member =>
      all other (List.mem_cons_of_mem mark member)
    rw [List.foldl_cons, here, Option.getD_some, others, ite_self,
      if_neg (List.cons_ne_nil mark rest)]

/-- An old row with a counterpart is to carry an update on every column where the two differ. -/
theorem oldMarks_of_found {new : List Row} {row other : Row}
    (found : new.find? (key.agree row) = some other) (column : String) :
    oldMarks key columns new row column =
      if column ∈ columns ∧ textsDiffer row other column = true then [updateMark
        (other.cell column)]
      else [] := by
  unfold oldMarks
  rw [found, ite_and]

/-- An old row with a counterpart reads like it once the updates are carried out: where the texts
were the same there is no update, and elsewhere the update shows the counterpart's value. -/
theorem bareText_updatedCell {new : List Row} {row after other : Row}
    (found : new.find? (key.agree row) = some other) (values : after.values = row.values)
    (marks : ∀ column mark,
      mark ∈ after.marks.of column none ↔ mark ∈ oldMarks key columns new row column)
    {column : String} (inside : column ∈ columns) :
    (after.updatedCell column).bareText = (other.cell column).bareText := by
  have own : after.cell column = row.cell column := by
    unfold Row.cell Row.cell?
    rw [values]
  have updates : ∀ mark, mark ∈ after.marks.of column (some .updated) ↔
      textsDiffer row other column = true ∧ mark = updateMark (other.cell column) := by
    intro mark
    rw [Marks.of_eq_filter, List.mem_filter, marks column mark, oldMarks_of_found found]
    by_cases differ : textsDiffer row other column = true
    · rw [if_pos ⟨inside, differ⟩, List.mem_singleton, and_iff_right differ]
      refine and_iff_left_of_imp fun same => ?_
      rw [same]
      rfl
    · rw [if_neg fun holds => differ holds.2]
      exact iff_of_false (fun holds => nomatch holds.1) fun holds => differ holds.1
  have shown := foldl_otherValue (after.cell column)
    (fun mark member => ((updates mark).1 member).2 ▸ rfl :
      ∀ mark ∈ after.marks.of column (some .updated), mark.otherValue? = some (other.cell column))
  unfold Row.updatedCell
  rw [shown]
  by_cases none_there : after.marks.of column (some .updated) = []
  · rw [if_pos none_there, own]
    by_contra differ
    have update := (updates (updateMark (other.cell column))).2 ⟨bne_iff_ne.2 differ, rfl⟩
    rw [none_there] at update
    cases update
  · rw [if_neg none_there]

include some_column in
/-- An old row is deleted when it has no counterpart. -/
theorem oldMarks_deleted_iff (new : List Row) (row : Row) :
    (new.find? (key.agree row)).isNone = true ↔
      ∃ column, (oldMarks key columns new row column).filter
        (Marks.isWanted (some .deleted)) ≠ [] := by
  cases found : new.find? (key.agree row) with
  | none =>
    obtain ⟨first, rest, rfl⟩ := List.exists_cons_of_ne_nil some_column
    refine iff_of_true rfl ⟨first, ?_⟩
    simp [oldMarks, found, Mark.plain, Marks.isWanted]
  | some other =>
    refine iff_of_false Bool.false_ne_true ?_
    rintro ⟨column, some_mark⟩
    refine some_mark (List.filter_eq_nil_iff.2 fun mark member => ?_)
    rw [oldMarks_of_found found] at member
    split at member
    · rw [List.mem_singleton.1 member]
      exact Bool.false_ne_true
    · cases member

include some_column in
/-- **An old row with its marks carried out** is its counterpart, if it has one. -/
theorem replayed?_eq {new : List Row} {row after : Row} (values : after.values = row.values)
    (marks : ∀ column mark,
      mark ∈ after.marks.of column none ↔ mark ∈ oldMarks key columns new row column) :
    after.replayed? columns = (new.find? (key.agree row)).map (Row.texts columns) := by
  have deleted :=
    (any_iff_of_mem .deleted marks).trans (oldMarks_deleted_iff some_column new row).symm
  unfold Row.replayed?
  cases found : new.find? (key.agree row) with
  | none =>
    rw [found] at deleted
    rw [if_pos (deleted.2 rfl)]
    rfl
  | some other =>
    rw [found] at deleted
    rw [if_neg (mt deleted.1 Bool.false_ne_true)]
    refine congrArg some (List.map_congr_left fun column inside => ?_)
    exact bareText_updatedCell found values marks inside

include some_column in
/-- **A new row is added** when it has no counterpart. -/
theorem addition?_eq {old earlier : List Row} {row after : Row} (values : after.values = row.values)
    (marks : ∀ column mark,
      mark ∈ after.marks.of column none ↔ mark ∈ newMarks key columns old earlier row column) :
    after.addition? columns =
      if (!old.any (key.agree · row)) = true then some (row.texts columns) else none := by
  have added := (any_iff_of_mem .added marks).trans
    (newMarks_added_iff key some_column old earlier row).symm
  have texts : after.texts columns = row.texts columns := by
    unfold Row.texts Row.cell Row.cell?
    rw [values]
  unfold Row.addition?
  rw [texts]
  simp only [added]

end Replay

/-! ### The edit script -/

section Script

variable {key : CompareKey} {old new : List Row} (columns : List String)
  (readsOld : ∀ row ∈ old, key.reads row) (readsNew : ∀ row ∈ new, key.reads row)
  (oldApart : key.Separates old) (newApart : key.Separates new)

include readsOld readsNew oldApart newApart in
/-- The counterparts of the old rows are the new rows that have one. -/
theorem counterparts_perm :
    (old.filterMap fun row => new.find? (key.agree row)).Perm
      (new.filter fun row => old.any (key.agree · row)) :=
  partners_perm (oldApart.pairsOnce readsOld readsNew)
    (newApart.pairsOnce_swapped readsNew readsOld)

include readsOld readsNew oldApart newApart in
/-- The counterparts of the old rows, with the new rows that have none, are the new rows. -/
theorem texts_perm :
    (old.filterMap (fun row => (new.find? (key.agree row)).map (Row.texts columns)) ++
        new.filterMap (fun row =>
          if (!old.any (key.agree · row)) = true then some (row.texts columns) else none)).Perm
      (new.map (Row.texts columns)) := by
  have matched : old.filterMap (fun row => (new.find? (key.agree row)).map (Row.texts columns)) =
      (old.filterMap fun row => new.find? (key.agree row)).map (Row.texts columns) :=
    List.map_filterMap.symm
  have unmatched : new.filterMap (fun row =>
        if (!old.any (key.agree · row)) = true then some (row.texts columns) else none) =
      (new.filter fun row => !old.any (key.agree · row)).map (Row.texts columns) := by
    rw [← List.filterMap_eq_map, List.filterMap_filter]
    rfl
  rw [matched, unmatched, ← List.map_append]
  refine List.Perm.map _ ?_
  exact ((counterparts_perm readsOld readsNew oldApart newApart).append_right _).trans
    (List.filter_append_perm ..)

include readsOld readsNew oldApart newApart in
/-- Rows that all have counterparts, from which none of them differs, read as these do. -/
theorem texts_perm_of_unchanged
    (none_deleted : old.countP (fun row => !new.any (key.agree row)) = 0)
    (none_updated : old.countP (fun row =>
      (new.find? (key.agree row)).any fun other => columns.any (textsDiffer row other)) = 0)
    (none_inserted : new.countP (fun row => !old.any (key.agree · row)) = 0) :
    (old.map (Row.texts columns)).Perm (new.map (Row.texts columns)) := by
  rw [List.countP_eq_zero] at none_deleted none_updated none_inserted
  have kept : old.filterMap (fun row => (new.find? (key.agree row)).map (Row.texts columns)) =
      old.map (Row.texts columns) := by
    rw [← List.filterMap_eq_map]
    refine List.filterMap_congr fun row member => ?_
    have matched := none_deleted row member
    rw [Bool.not_eq_true', Bool.not_eq_false, ← List.isSome_find?] at matched
    obtain ⟨other, found⟩ := Option.isSome_iff_exists.1 matched
    have unchanged := none_updated row member
    rw [found, Option.any_some, Bool.not_eq_true, List.any_eq_false] at unchanged
    rw [found]
    refine congrArg some (List.map_congr_left fun column inside => ?_)
    have same := unchanged column inside
    rw [textsDiffer, bne_iff_ne, ne_eq, not_not] at same
    exact same.symm
  have none_added : new.filterMap (fun row =>
      if (!old.any (key.agree · row)) = true then some (row.texts columns) else none) = [] :=
    List.filterMap_eq_nil_iff.2 fun row member => if_neg (none_inserted row member)
  have perm := texts_perm columns readsOld readsNew oldApart newApart
  rwa [kept, none_added, List.append_nil] at perm

end Script

/-- Only a comparison that counted nothing says so. -/
theorem summary_eq_iff {inserted deleted updated : Nat} :
    DiffReport.summary inserted deleted updated = "No changes" ↔
      inserted = 0 ∧ deleted = 0 ∧ updated = 0 := by
  unfold DiffReport.summary
  split
  · exact iff_of_true rfl ‹_›
  · refine iff_of_false (fun same => ?_) ‹_›
    have first := congrArg (fun text : String => text.toList.head?) same
    simp [String.toList_append] at first

/-- **The marks of a comparison are an edit script.** Where no two rows of a set share a key,
carrying out the marks on the old rows gives the new ones, read as text over the old columns; and
where nothing is said to have changed, the old rows already were these. -/
theorem diff_replay {old new : ResultSet} {key : CompareKey} (chosen : old.matchingKey = .ok key)
    (some_column : old.names ≠ []) (oldApart : key.Separates old.rows)
    (newApart : key.Separates new.rows) {report : DiffReport}
    (completed : (diff old new).report = .ok report) (compared : report.ok = true) :
    (diff old new).replay.Perm (new.rows.map (Row.texts old.names)) ∧
      (report.message = "No changes" →
        (old.rows.map (Row.texts old.names)).Perm (new.rows.map (Row.texts old.names))) := by
  obtain ⟨used, sameKey, fault, rfl, outcome⟩ := diff_completed completed compared
  obtain rfl : used = key := Except.ok.inj (sameKey.symm.trans chosen)
  obtain ⟨readsOld, readsNew, -⟩ := (fault_comparison_iff_reads ..).1 fault
  refine ⟨?_, fun unchanged => ?_⟩
  · have replayed := (shows_old fault).filterMap_eq fun _ row _ _ values marks =>
      replayed?_eq some_column values marks
    have added := (shows_new fault).filterMap_eq fun _ row _ _ values marks =>
      addition?_eq some_column values marks
    have perm := texts_perm old.names readsOld readsNew oldApart newApart
    rw [← replayed, ← added] at perm
    rw [outcome]
    exact perm
  · obtain ⟨deletions, updates, insertions⟩ := counts_comparison fault
    obtain ⟨none_inserted, none_deleted, none_updated⟩ := summary_eq_iff.1 unchanged
    exact texts_perm_of_unchanged old.names readsOld readsNew oldApart newApart
      (deletions.symm.trans none_deleted) (updates.symm.trans none_updated)
      (insertions.symm.trans none_inserted)

/-- One row deleted, one updated, one as it was and one added, where a column is named twice. -/
theorem diff_replay_of_edited_rows :
    let old : ResultSet := .keyedBy (.unique "id") ["id", "name", "name"]
      [[("id", .int 1), ("name", .text "a")], [("id", .int 2), ("name", .null)], [("id", .int 3)]]
    let new : ResultSet := .keyedBy (.unique "id") ["id", "name"]
      [[("id", .int 4)], [("id", .int 3), ("name", .text "")],
        [("id", .int 1), ("name", .text "b")]]
    let report : DiffReport := ⟨true, 1, 1, 1, "Inserted:1, Deleted:1, Updated:1"⟩
    old.matchingKey = .ok (.unique "id") ∧ old.names ≠ [] ∧
      (CompareKey.unique "id").Separates old.rows ∧ (CompareKey.unique "id").Separates new.rows ∧
      (diff old new).report = .ok report ∧ report.ok = true ∧
      (diff old new).replay.Perm (new.rows.map (Row.texts old.names)) ∧
      (report.message = "No changes" →
        (old.rows.map (Row.texts old.names)).Perm (new.rows.map (Row.texts old.names))) := by
  intro old new report
  have chosen : old.matchingKey = .ok (.unique "id") := rfl
  have some_column : old.names ≠ [] := List.cons_ne_nil _ _
  have oldApart : (CompareKey.unique "id").Separates old.rows := by
    unfold CompareKey.Separates
    decide +kernel
  have newApart : (CompareKey.unique "id").Separates new.rows := by
    unfold CompareKey.Separates
    decide +kernel
  have completed : (diff old new).report = .ok report := eq_ok_of_toOption (by decide +kernel)
  exact ⟨chosen, some_column, oldApart, newApart, completed, rfl,
    diff_replay chosen some_column oldApart newApart completed rfl⟩

end QueryDesk
