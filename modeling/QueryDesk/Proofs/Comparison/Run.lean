/-
**What a completed comparison of rows found.**

* `CompareKey.agree` — whether two rows have the same value under a key.
* `Comparison.ofRows` — the comparison of the rows of two sets by a key.
* `Comparison.completed` — a comparison that was completed could look up every key and compare every
  pair of rows; its edits are those for the old rows, one after another, and behind them those for
  the new rows without a counterpart.
* `Comparison.fault_ofRows_iff` — when a comparison is completed.
* `find?_keyedRows_at` — a new row is the counterpart of an old one when their keys are the same and
  no earlier new row has this key.
-/

import QueryDesk.Proofs.Comparison.Edits
import QueryDesk.Proofs.Matching.KeyClass

namespace QueryDesk

/-- Whether two rows have the same value under a key. -/
def CompareKey.agree (key : CompareKey) (row other : Row) : Bool :=
  (RowKey.ofRow key row).same (.ofRow key other)

/-- Whether the value of a row under a key can be looked up. -/
def CompareKey.reads (key : CompareKey) (row : Row) : Prop := (RowKey.ofRow key row).check = .ok ()

/-- The comparison of the rows of two sets by a key. -/
def Comparison.ofRows (key : CompareKey) (columns : List String) (old new : List Row) :
    Comparison :=
  run (fun a b => a.key.same b.key) columns (keyedRows key old) (keyedRows key new)

section Run

variable (key : CompareKey)

/-! ### Counterparts -/

theorem CompareKey.agree_symm {row other : Row} (readsRow : key.reads row)
    (readsOther : key.reads other) (holds : key.agree row other = true) :
    key.agree other row = true :=
  RowKey.same_symm readsRow readsOther holds

theorem CompareKey.agree_trans {first second third : Row} (readsFirst : key.reads first)
    (readsSecond : key.reads second) (readsThird : key.reads third)
    (here : key.agree first second = true) (there : key.agree second third = true) :
    key.agree first third = true :=
  RowKey.same_trans readsFirst readsSecond readsThird here there

/-- The counterpart of a row, found among keyed rows. -/
theorem find?_keyedRows (test : RowKey → Bool) (rows : List Row) :
    ((keyedRows key rows).find? fun entry => test entry.key).map KeyedRow.row =
      rows.find? fun row => test (.ofRow key row) := by
  have pairs := congrArg (fun found => (found.find? (test ∘ Prod.fst)).map Prod.snd)
    (map_keyedRows key Prod.mk rows)
  simp only [List.find?_map, Option.map_map] at pairs
  exact pairs.trans (congrFun Option.map_id _)

theorem any_keyedRows (test : RowKey → Bool) (rows : List Row) :
    ((keyedRows key rows).any fun entry => test entry.key) =
      rows.any fun row => test (.ofRow key row) := by
  have tests :=
    congrArg (fun tested => tested.any id) (map_keyedRows key (fun key _ => test key) rows)
  simp only [List.any_map] at tests
  exact tests

theorem countP_keyedRows (test : RowKey → Row → Bool) (rows : List Row) :
    ((keyedRows key rows).countP fun entry => test entry.key entry.row) =
      rows.countP fun row => test (.ofRow key row) row := by
  have tests := congrArg (fun tested => tested.countP id) (map_keyedRows key test rows)
  simp only [List.countP_map] at tests
  exact tests

/-- The row at a place is the first one that passes a test. -/
theorem find?_keyedRowsFrom_place (test : RowKey → Bool) {found : Row} (rows : List Row) :
    ∀ first place : Nat, rows[place]? = some found →
      ((∃ entry, (keyedRowsFrom key first rows).find? (fun entry => test entry.key) = some entry ∧
          entry.place = first + place) ↔
        test (.ofRow key found) = true ∧
          ∀ earlier ∈ rows.take place, test (.ofRow key earlier) = false) := by
  induction rows with
  | nil =>
    intro first place here
    cases here
  | cons row rest ih =>
    intro first place here
    rw [keyedRowsFrom, List.find?_cons]
    cases place with
    | zero =>
      obtain rfl : row = found := Option.some.inj here
      cases holds : test (.ofRow key row) with
      | true => simp
      | false =>
        refine iff_of_false ?_ fun passed => Bool.false_ne_true passed.1
        rintro ⟨entry, later, place⟩
        have behind := le_place_of_mem key (List.mem_of_find?_eq_some later)
        omega
    | succ place =>
      rw [List.take_succ_cons]
      cases holds : test (.ofRow key row) with
      | true =>
        refine iff_of_false ?_ fun found => ?_
        · rintro ⟨entry, same, place⟩
          cases same
          exact absurd place (by show ¬ first = _; omega)
        · have passed := found.2 row List.mem_cons_self
          rw [holds] at passed
          cases passed
      | false =>
        have next := ih (first + 1) place here
        rw [Nat.add_right_comm, Nat.add_assoc] at next
        refine next.trans (and_congr_right fun _ => ?_)
        rw [List.forall_mem_cons]
        exact (and_iff_right holds).symm

/-- **The counterpart of a row** is the first row of its key: the row at a place is found when it
agrees with the row and with no row before it. -/
theorem find?_keyedRows_at {rows : List Row} (reads : ∀ row ∈ rows, key.reads row) {row found : Row}
    (readsRow : key.reads row) {place : Nat} (here : rows[place]? = some found) :
    (∃ entry, (keyedRows key rows).find? (fun entry => (RowKey.ofRow key row).same entry.key) =
        some entry ∧ entry.place = place) ↔
      key.agree row found = true ∧ ∀ earlier ∈ rows.take place,
        key.agree earlier found = false := by
  have readsFound := reads found (List.mem_of_getElem? here)
  have first := find?_keyedRowsFrom_place key (RowKey.ofRow key row).same rows 0 place here
  rw [Nat.zero_add] at first
  refine first.trans (and_congr_right fun holds => forall₂_congr fun earlier member => ?_)
  -- an earlier row agrees with the row that is looked up as it agrees with the row at the place
  have readsEarlier := reads earlier (List.mem_of_mem_take member)
  show key.agree row earlier = false ↔ _
  rw [← Bool.not_eq_true, ← Bool.not_eq_true]
  refine not_congr ⟨fun agrees => ?_, fun agrees => ?_⟩
  · exact key.agree_trans readsEarlier readsRow readsFound
      (key.agree_symm readsRow readsEarlier agrees) holds
  · exact key.agree_trans readsRow readsFound readsEarlier holds
      (key.agree_symm readsEarlier readsFound agrees)

/-! ### Completed comparisons -/

namespace Comparison

/-- Whether what is found about an old row is that it has no counterpart. -/
def isDeletion (matches? : KeyedRow → KeyedRow → Bool) (new : List KeyedRow) (row : KeyedRow) :
    Bool :=
  (new.find? (matches? row)).isNone

/-- Whether an old row has a counterpart with another text in some column. -/
def isUpdate (matches? : KeyedRow → KeyedRow → Bool) (columns : List String) (new : List KeyedRow)
    (row : KeyedRow) : Bool :=
  (new.find? (matches? row)).any fun other => columns.any (textsDiffer row.row other.row)

/-- An old row can be compared: its cells and those of its counterpart, if it
has one, have texts. -/
def IsComparable (matches? : KeyedRow → KeyedRow → Bool) (columns : List String)
    (new : List KeyedRow) (row : KeyedRow) : Prop :=
  ∀ other, new.find? (matches? row) = some other →
    row.row.HasTexts columns ∧ other.row.HasTexts columns

/-- The edits for an old row that can be compared. -/
def editsOfOldRow (matches? : KeyedRow → KeyedRow → Bool) (columns : List String)
    (new : List KeyedRow) (row : KeyedRow) : List Edit :=
  match new.find? (matches? row) with
  | none => editsOfRow .old row.place columns .deleted
  | some other => editsOfPair columns row other

/-- A pair of rows gives no edits when no column differs. -/
theorem isEmpty_editsOfPair (columns : List String) (old new : KeyedRow) :
    (editsOfPair columns old new).isEmpty = !columns.any (textsDiffer old.row new.row) := by
  unfold editsOfPair editsOfCells
  rw [Bool.eq_iff_iff, List.isEmpty_iff, List.flatMap_eq_nil_iff]
  simp

theorem fault_ofOldRow_iff (matches? : KeyedRow → KeyedRow → Bool) (columns : List String)
    (new : List KeyedRow) (row : KeyedRow) :
    (ofOldRow matches? columns new row).fault = none ↔ IsComparable matches? columns new row := by
  unfold ofOldRow IsComparable
  cases new.find? (matches? row) with
  | none => exact iff_of_true rfl nofun
  | some other =>
    refine (fault_ofPair_iff row other columns).trans ⟨?_, fun comparable => comparable other rfl⟩
    rintro texts _ ⟨⟩
    exact texts

/-- What is found about an old row that can be compared. -/
theorem ofOldRow_eq {matches? : KeyedRow → KeyedRow → Bool} {columns : List String}
    {new : List KeyedRow} {row : KeyedRow} (comparable : IsComparable matches? columns new row) :
    ofOldRow matches? columns new row =
      ⟨editsOfOldRow matches? columns new row, if isDeletion matches? new row then 1 else 0,
        if isUpdate matches? columns new row then 1 else 0, 0, none⟩ := by
  unfold ofOldRow editsOfOldRow isDeletion isUpdate
  cases found : new.find? (matches? row) with
  | none => rfl
  | some other =>
    obtain ⟨left, right⟩ := comparable other found
    dsimp only
    rw [ofPair_of_hasTexts left right, isEmpty_editsOfPair]
    show Comparison.mk _ 0 _ 0 none =
      Comparison.mk _ 0 (if columns.any (textsDiffer row.row other.row) then 1 else 0) 0 none
    cases columns.any (textsDiffer row.row other.row) <;> rfl

/-- The old rows are gone through to the end when every key can be looked up and
every row compared. -/
theorem fault_ofOldRows_iff (matches? : KeyedRow → KeyedRow → Bool) (columns : List String)
    (new : List KeyedRow) (old : List KeyedRow) :
    (ofOldRows matches? columns new old).fault = none ↔
      ∀ row ∈ old, row.key.check = .ok () ∧ IsComparable matches? columns new row := by
  induction old with
  | nil => exact iff_of_true rfl nofun
  | cons row rest ih =>
    rw [ofOldRows, List.forall_mem_cons, ← ih, ← fault_ofOldRow_iff]
    cases row.key.check with
    | error fault => exact iff_of_false nofun fun holds => nomatch holds.1.1
    | ok _ => exact fault_andThen_iff.trans (and_congr_left fun _ => (and_iff_right rfl).symm)

/-- The old rows of a completed comparison. -/
theorem ofOldRows_completed (matches? : KeyedRow → KeyedRow → Bool) (columns : List String)
    (new : List KeyedRow) (old : List KeyedRow)
    (completed : (ofOldRows matches? columns new old).fault = none) :
    ofOldRows matches? columns new old =
      ⟨old.flatMap (editsOfOldRow matches? columns new), old.countP (isDeletion matches? new),
        old.countP (isUpdate matches? columns new), 0, none⟩ := by
  induction old with
  | nil => rfl
  | cons row rest ih =>
    obtain ⟨⟨checked, comparable⟩, others⟩ :=
      List.forall_mem_cons.1 ((fault_ofOldRows_iff ..).1 completed)
    rw [ofOldRows, checked]
    dsimp only
    rw [ofOldRow_eq comparable, andThen_of_completed rfl, ih ((fault_ofOldRows_iff ..).2 others)]
    simp only [List.flatMap_cons, List.countP_cons, Nat.add_comm]

theorem keyFault?_eq_none {rows : List KeyedRow} :
    keyFault? rows = none ↔ ∀ row ∈ rows, row.key.check = .ok () := by
  induction rows with
  | nil => simp [keyFault?]
  | cons row rest ih =>
    rw [keyFault?, List.forall_mem_cons, ← ih]
    cases row.key.check <;> simp

/-- A comparison of keyed rows is completed when every key can be looked up and
every old row compared. -/
theorem fault_run_iff (matches? : KeyedRow → KeyedRow → Bool) (columns : List String)
    (old new : List KeyedRow) :
    (run matches? columns old new).fault = none ↔ (∀ row ∈ new, row.key.check = .ok ()) ∧
      ∀ row ∈ old, row.key.check = .ok () ∧ IsComparable matches? columns new row := by
  unfold run
  rw [← fault_ofOldRows_iff, ← keyFault?_eq_none]
  cases keyFault? new with
  | some fault => exact iff_of_false nofun fun holds => nomatch holds.1
  | none => exact fault_andThen_iff.trans ((and_iff_left rfl).trans (and_iff_right rfl).symm)

/-- What ends the part for the old rows is the key of one of them, or the want of a text. -/
theorem fault_of_ofOldRows {matches? : KeyedRow → KeyedRow → Bool} {columns : List String}
    {new : List KeyedRow} {fault : Fault} {old : List KeyedRow}
    (ended : (ofOldRows matches? columns new old).fault = some fault) :
    fault = .tooManyDigits ∨ ∃ row ∈ old, row.key.check = .error fault := by
  induction old with
  | nil => cases ended
  | cons row rest ih =>
    rw [ofOldRows] at ended
    cases checked : row.key.check with
    | error found =>
      rw [checked] at ended
      obtain rfl : found = fault := Option.some.inj ended
      exact .inr ⟨row, List.mem_cons_self, checked⟩
    | ok _ =>
      rw [checked] at ended
      rcases fault_andThen_of_some ended with here | later
      · unfold ofOldRow at here
        split at here
        · cases here
        · exact .inl (fault_of_ofPair here)
      · exact (ih later).imp_right fun ⟨other, inside, failed⟩ =>
          ⟨other, List.mem_cons_of_mem row inside, failed⟩

theorem mem_of_keyFault? {fault : Fault} {rows : List KeyedRow}
    (found : keyFault? rows = some fault) :
    ∃ row ∈ rows, row.key.check = .error fault := by
  induction rows with
  | nil => cases found
  | cons row rest ih =>
    rw [keyFault?] at found
    cases checked : row.key.check with
    | error cause =>
      rw [checked] at found
      obtain rfl : cause = fault := Option.some.inj found
      exact ⟨row, List.mem_cons_self, checked⟩
    | ok _ =>
      rw [checked] at found
      obtain ⟨other, inside, failed⟩ := ih found
      exact ⟨other, List.mem_cons_of_mem row inside, failed⟩

/-- **What ends a comparison** is the key of some row, or the want of a text. -/
theorem fault_of_run {matches? : KeyedRow → KeyedRow → Bool} {columns : List String} {fault : Fault}
    {old new : List KeyedRow} (ended : (run matches? columns old new).fault = some fault) :
    fault = .tooManyDigits ∨ ∃ row ∈ old ++ new, row.key.check = .error fault := by
  unfold run at ended
  cases newKeys : keyFault? new with
  | some found =>
    rw [newKeys] at ended
    obtain rfl : found = fault := Option.some.inj ended
    obtain ⟨row, inside, failed⟩ := mem_of_keyFault? newKeys
    exact .inr ⟨row, List.mem_append_right old inside, failed⟩
  | none =>
    rw [newKeys] at ended
    rcases fault_andThen_of_some ended with here | impossible
    · exact (fault_of_ofOldRows here).imp_right fun ⟨row, inside, failed⟩ =>
        ⟨row, List.mem_append_left new inside, failed⟩
    · cases impossible

/-- What a comparison adds to the old rows' part for the new rows. -/
theorem run_completed (matches? : KeyedRow → KeyedRow → Bool) (columns : List String)
    (old new : List KeyedRow) (completed : (run matches? columns old new).fault = none) :
    run matches? columns old new =
      ⟨old.flatMap (editsOfOldRow matches? columns new) ++
        (ofNewRows matches? columns old new).edits,
        old.countP (isDeletion matches? new), old.countP (isUpdate matches? columns new),
        new.countP fun row => !old.any fun other => matches? other row, none⟩ := by
  obtain ⟨readsNew, rows⟩ := (fault_run_iff ..).1 completed
  have oldPart := (fault_ofOldRows_iff ..).2 rows
  unfold run
  rw [keyFault?_eq_none.2 readsNew]
  dsimp only
  rw [andThen_of_completed oldPart, ofOldRows_completed _ _ _ _ oldPart]
  simp only [ofNewRows, nothing, Nat.add_zero, Nat.zero_add, List.countP_eq_length_filter]

end Comparison

/-! ### Counts by rows -/

theorem countP_isDeletion (old new : List Row) :
    (keyedRows key old).countP
        (Comparison.isDeletion (fun a b => a.key.same b.key) (keyedRows key new)) =
      old.countP fun row => (new.find? (key.agree row)).isNone := by
  refine (countP_keyedRows key (fun own _ =>
    ((keyedRows key new).find? fun entry => own.same entry.key).isNone) old).trans ?_
  refine congrArg (List.countP · old) (funext fun row => ?_)
  rw [← Option.isNone_map, find?_keyedRows]
  rfl

theorem countP_isUpdate (columns : List String) (old new : List Row) :
    (keyedRows key old).countP
        (Comparison.isUpdate (fun a b => a.key.same b.key) columns (keyedRows key new)) =
      old.countP fun row =>
        (new.find? (key.agree row)).any fun other => columns.any (textsDiffer row other) := by
  refine (countP_keyedRows key (fun own row =>
    ((keyedRows key new).find? fun entry => own.same entry.key).any fun other =>
      columns.any (textsDiffer row other.row)) old).trans ?_
  refine congrArg (List.countP · old) (funext fun row => ?_)
  have found := find?_keyedRows key (RowKey.ofRow key row).same new
  show _ = Option.any _ (new.find? fun other => (RowKey.ofRow key row).same (.ofRow key other))
  rw [← found, Option.any_map]

theorem countP_insertions (old new : List Row) :
    ((keyedRows key new).countP fun entry =>
        !(keyedRows key old).any fun other => other.key.same entry.key) =
      new.countP fun row => !old.any (key.agree · row) := by
  refine (countP_keyedRows key (fun own _ =>
    !(keyedRows key old).any fun other => other.key.same own) new).trans ?_
  refine congrArg (List.countP · new) (funext fun row => ?_)
  rw [any_keyedRows key fun other => other.same (.ofRow key row)]
  rfl

/-- The rows that are matched have texts in all columns that are compared. -/
def CompareKey.Compares (columns : List String) (old new : List Row) : Prop :=
  ∀ row ∈ old, ∀ other, new.find? (key.agree row) = some other →
    row.HasTexts columns ∧ other.HasTexts columns

theorem forall_mem_keyedRows_iff (claim : RowKey → Row → Prop) (rows : List Row) :
    (∀ entry ∈ keyedRows key rows, claim entry.key entry.row) ↔
      ∀ row ∈ rows, claim (.ofRow key row) row := by
  constructor
  · intro all row member
    obtain ⟨place, here⟩ := List.mem_iff_getElem?.1 member
    exact all ⟨place, .ofRow key row, row⟩ ((mem_keyedRows key).2 ⟨here, rfl⟩)
  · intro all entry member
    obtain ⟨here, keyed⟩ := (mem_keyedRows key).1 member
    exact keyed ▸ all entry.row (List.mem_of_getElem? here)

/-- Keyed rows can be compared when the rows that are matched have texts. -/
theorem isComparable_keyedRows_iff (columns : List String) (old new : List Row) :
    (∀ entry ∈ keyedRows key old, Comparison.IsComparable (fun a b => a.key.same b.key) columns
        (keyedRows key new) entry) ↔ key.Compares columns old new := by
  have partner (own : RowKey) (row : Row) :
      (∀ other, (keyedRows key new).find? (fun entry => own.same entry.key) = some other →
          row.HasTexts columns ∧ other.row.HasTexts columns) ↔
        ∀ other, new.find? (fun other => own.same (.ofRow key other)) = some other →
          row.HasTexts columns ∧ other.HasTexts columns := by
    rw [← find?_keyedRows key own.same new]
    simp only [Option.map_eq_some_iff]
    constructor
    · rintro all _ ⟨entry, found, rfl⟩
      exact all entry found
    · exact fun all entry found => all entry.row ⟨entry, found, rfl⟩
  refine (forall_mem_keyedRows_iff key (fun own row => ∀ other,
    (keyedRows key new).find? (fun entry => own.same entry.key) = some other →
      row.HasTexts columns ∧ other.row.HasTexts columns) old).trans ?_
  exact forall₂_congr fun row _ => partner (.ofRow key row) row

/-- **When a comparison of rows is completed**: every key can be looked up, and the rows
that are matched have texts. -/
theorem Comparison.fault_ofRows_iff (columns : List String) (old new : List Row) :
    (ofRows key columns old new).fault = none ↔
      (∀ row ∈ old, key.reads row) ∧ (∀ row ∈ new, key.reads row) ∧
        key.Compares columns old new := by
  have checks := forall_mem_keyedRows_iff key fun own _ => own.check = .ok ()
  unfold ofRows
  rw [fault_run_iff, checks, forall₂_and, checks, isComparable_keyedRows_iff, and_left_comm]
  rfl

/-- **A completed comparison of rows**: its edits are those for the old rows and behind them those
for the new ones, and the counts are those of the old rows without a counterpart, the old rows that
differ from theirs, and the new rows without one. -/
theorem Comparison.completed {columns : List String} {old new : List Row}
    (completed : (ofRows key columns old new).fault = none) :
    ofRows key columns old new =
      ⟨((keyedRows key old).flatMap
            (editsOfOldRow (fun a b => a.key.same b.key) columns (keyedRows key new))) ++
          (ofNewRows (fun a b => a.key.same b.key) columns (keyedRows key old)
            (keyedRows key new)).edits,
        old.countP fun row => (new.find? (key.agree row)).isNone,
        old.countP fun row =>
          (new.find? (key.agree row)).any fun other => columns.any (textsDiffer row other),
        new.countP fun row => !old.any (key.agree · row), none⟩ := by
  refine (run_completed _ _ _ _ completed).trans ?_
  rw [countP_isDeletion, countP_isUpdate, countP_insertions]

end Run

end QueryDesk
