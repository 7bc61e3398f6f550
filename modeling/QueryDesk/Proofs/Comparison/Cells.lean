/-
**The marks that a comparison puts on every cell.**

* `oldMarks` — what an old row is to carry: a deletion on every column when no new row has its key,
  else an update on the columns where the first new row of its key differs.
* `newMarks` — what a new row is to carry: an addition on every column when no old row has its key;
  else, if it is the first of its key, the updates of the old rows of this key that differ from it.
* `marksAt_old`, `marksAt_new` — the edits of a completed comparison are these.
-/

import QueryDesk.Proofs.Comparison.Run

namespace QueryDesk

/-- The marks an old row is to carry on a column. -/
def oldMarks (key : CompareKey) (columns : List String) (new : List Row) (row : Row)
    (column : String) : List Mark :=
  if column ∈ columns then
    match new.find? (key.agree row) with
    | none => [.plain .deleted]
    | some first => if textsDiffer row first column then [updateMark (first.cell column)] else []
  else []

/-- The marks a new row is to carry on a column, behind the earlier rows of its set. -/
def newMarks (key : CompareKey) (columns : List String) (old earlier : List Row) (row : Row)
    (column : String) : List Mark :=
  if column ∈ columns then
    if old.any (key.agree · row) then
      if earlier.any (key.agree · row) then []
      else (old.filter fun other => key.agree other row && textsDiffer other row column).map
        fun other => updateMark (other.cell column)
    else [.plain .added]
  else []

section Cells

variable (key : CompareKey) {columns : List String} (distinct : columns.Nodup)
  (column : String)

/-! ### The old set -/

include distinct in
/-- The edits for an old row put on its own set what the row is to carry. -/
theorem marksAt_ofOldRow_old (new : List Row) (entry : KeyedRow) (place : Nat)
    (keyed : entry.key = .ofRow key entry.row) :
    marksAt .old place column (Comparison.editsOfOldRow (fun a b => a.key.same b.key) columns
        (keyedRows key new) entry) =
      if entry.place = place then oldMarks key columns new entry.row column else [] := by
  have found : ((keyedRows key new).find? fun other => entry.key.same other.key).map KeyedRow.row =
      new.find? (key.agree entry.row) := by
    rw [keyed]
    exact find?_keyedRows key _ new
  unfold Comparison.editsOfOldRow oldMarks
  rw [← found]
  cases (keyedRows key new).find? fun other => entry.key.same other.key with
  | none =>
    show marksAt .old place column (editsOfRow .old entry.place columns .deleted) = _
    rw [marksAt_editsOfRow .old place column distinct]
    by_cases inside : column ∈ columns <;> simp [inside]
  | some other =>
    show marksAt .old place column (editsOfPair columns entry other) = _
    rw [marksAt_editsOfPair .old place column distinct]
    by_cases inside : column ∈ columns <;> by_cases same : entry.place = place <;>
      simp [inside, same]

include distinct in
/-- The edits for new rows put nothing on the old set. -/
theorem marksAt_ofNewRows_old (old new : List KeyedRow) (place : Nat)
    (matches? : KeyedRow → KeyedRow → Bool) :
    marksAt .old place column (Comparison.ofNewRows matches? columns old new).edits = [] := by
  show marksAt .old place column (List.flatMap _ _) = []
  rw [marksAt_flatMap, List.flatMap_eq_nil_iff]
  intro entry _
  rw [marksAt_editsOfRow .old place column distinct]
  exact if_neg fun holds => nomatch holds.1

include distinct in
/-- **The marks on the old rows** after a completed comparison. -/
theorem marksAt_old {old new : List Row}
    (completed : (Comparison.ofRows key columns old new).fault = none) {place : Nat} {row : Row}
    (here : old[place]? = some row) :
    marksAt .old place column (Comparison.ofRows key columns old new).edits =
      oldMarks key columns new row column := by
  rw [Comparison.completed key completed]
  show marksAt .old place column (_ ++ _) = _
  rw [marksAt_append, marksAt_ofNewRows_old distinct, List.append_nil, marksAt_flatMap]
  have visits : ∀ entry ∈ keyedRows key old,
      marksAt .old place column (Comparison.editsOfOldRow (fun a b => a.key.same b.key) columns
          (keyedRows key new) entry) =
        if entry.place = place then oldMarks key columns new entry.row column else [] :=
    fun entry member => marksAt_ofOldRow_old key distinct column new entry place
      ((mem_keyedRows key).1 member).2
  rw [List.flatMap_def, List.map_congr_left visits, ← List.flatMap_def,
    flatMap_keyedRows_at key (fun _ row => oldMarks key columns new row column), here]
  rfl

/-! ### The new set -/

include distinct in
/-- The edits for an old row put an update on the new row at a place when this is the first one of
its key, agrees with the old row and differs from it in the column. -/
theorem marksAt_ofOldRow_new {new : List Row} (readsNew : ∀ row ∈ new, key.reads row)
    {entry : KeyedRow} (readsEntry : key.reads entry.row) (keyed : entry.key = .ofRow key entry.row)
    {place : Nat} {target : Row} (here : new[place]? = some target) :
    marksAt .new place column (Comparison.editsOfOldRow (fun a b => a.key.same b.key) columns
        (keyedRows key new) entry) =
      if column ∈ columns ∧ (new.take place).any (key.agree · target) = false then
        if (key.agree entry.row target && textsDiffer entry.row target column) = true then
          [updateMark (entry.row.cell column)]
        else []
      else [] := by
  have counterpart := find?_keyedRows_at key readsNew readsEntry here
  rw [← keyed] at counterpart
  have unmatched : ¬ (∃ found, ((keyedRows key new).find? fun other => entry.key.same other.key) =
      some found ∧ found.place = place) →
      (new.take place).any (key.agree · target) = false →
        key.agree entry.row target = false := by
    intro absent first
    rw [counterpart] at absent
    rw [List.any_eq_false] at first
    exact Bool.eq_false_iff.2 fun agrees => absent ⟨agrees, fun earlier member =>
      Bool.eq_false_iff.2 (first earlier member)⟩
  unfold Comparison.editsOfOldRow
  cases found : (keyedRows key new).find? fun other => entry.key.same other.key with
  | none =>
    show marksAt .new place column (editsOfRow .old entry.place columns .deleted) = _
    rw [marksAt_editsOfRow .new place column distinct, if_neg fun holds => nomatch holds.1]
    by_cases first : column ∈ columns ∧ (new.take place).any (key.agree · target) = false
    · have apart := unmatched (by rw [found]; nofun) first.2
      rw [if_pos first, apart, Bool.false_and, if_neg Bool.false_ne_true]
    · rw [if_neg first]
  | some other =>
    show marksAt .new place column (editsOfPair columns entry other) = _
    rw [marksAt_editsOfPair .new place column distinct]
    show (if _ then if other.place = place then _ else [] else []) = _
    by_cases there : other.place = place
    · have member := ((mem_keyedRows key).1 (List.mem_of_find?_eq_some found)).1
      rw [there, here] at member
      obtain rfl : target = other.row := Option.some.inj member
      obtain ⟨agrees, before⟩ := counterpart.1 ⟨other, found, there⟩
      have first : (new.take place).any (key.agree · other.row) = false :=
        List.any_eq_false.2 fun earlier inside => Bool.eq_false_iff.1 (before earlier inside)
      by_cases inside : column ∈ columns <;> simp [inside, there, first, agrees]
    · have apart := unmatched (by
        rintro ⟨_, same, at_place⟩
        rw [found] at same
        cases same
        exact there at_place)
      by_cases first : column ∈ columns ∧ (new.take place).any (key.agree · target) = false
      · rw [if_pos first, apart first.2, Bool.false_and, if_neg Bool.false_ne_true, if_neg there,
          ite_self]
      · rw [if_neg first, if_neg there, ite_self]

/-- Items that pass a test, visited in turn. -/
theorem flatMap_filter {α β : Type} (test : α → Bool) (each : α → List β) (items : List α) :
    (items.filter test).flatMap each =
      items.flatMap fun item => if test item = true then each item else [] := by
  induction items with
  | nil => rfl
  | cons item rest ih =>
    rw [List.filter_cons, List.flatMap_cons, ← ih]
    split <;> rfl

include distinct in
/-- The edits for new rows put an addition on the new row at a place when no old
row agrees with it. -/
theorem marksAt_ofNewRows_new (old : List Row) {new : List Row} {place : Nat} {row : Row}
    (here : new[place]? = some row) :
    marksAt .new place column (Comparison.ofNewRows (fun a b => a.key.same b.key) columns
        (keyedRows key old) (keyedRows key new)).edits =
      if column ∈ columns ∧ old.any (key.agree · row) = false then [.plain .added] else [] := by
  have visits : ∀ entry : KeyedRow,
      marksAt .new place column (if (!(keyedRows key old).any fun other => other.key.same entry.key)
          then editsOfRow .new entry.place columns .added else []) =
        if entry.place = place then
          if column ∈ columns ∧
            ((keyedRows key old).any fun other => other.key.same entry.key) = false
          then [.plain .added] else []
        else [] := by
    intro entry
    cases ((keyedRows key old).any fun other => other.key.same entry.key) with
    | true => simp
    | false =>
      show marksAt .new place column (editsOfRow .new entry.place columns .added) = _
      rw [marksAt_editsOfRow .new place column distinct]
      by_cases there : entry.place = place <;> simp [there]
  show marksAt .new place column (List.flatMap _ (List.filter _ _)) = _
  rw [flatMap_filter, marksAt_flatMap, funext visits]
  refine (flatMap_keyedRows_at key (fun own _ => if column ∈ columns ∧
    ((keyedRows key old).any fun other => other.key.same own) = false then [Mark.plain .added]
      else [])
    new place).trans ?_
  rw [here, Option.map_some, Option.getD_some, any_keyedRows key fun other =>
    other.same (.ofRow key row)]
  rfl

include distinct in
/-- **The marks on the new rows** after a completed comparison. -/
theorem marksAt_new {old new : List Row}
    (completed : (Comparison.ofRows key columns old new).fault = none) {place : Nat} {row : Row}
    (here : new[place]? = some row) :
    marksAt .new place column (Comparison.ofRows key columns old new).edits =
      newMarks key columns old (new.take place) row column := by
  obtain ⟨readsOld, readsNew, -⟩ := (Comparison.fault_ofRows_iff ..).1 completed
  have updates : marksAt .new place column ((keyedRows key old).flatMap
      (Comparison.editsOfOldRow (fun a b => a.key.same b.key) columns (keyedRows key new))) =
      if column ∈ columns ∧ (new.take place).any (key.agree · row) = false then
        (old.filter fun other => key.agree other row && textsDiffer other row column).map
          fun other => updateMark (other.cell column)
      else [] := by
    have visits : ∀ entry ∈ keyedRows key old, _ := fun entry member =>
      have own := (mem_keyedRows key).1 member
      marksAt_ofOldRow_new key distinct column readsNew
        (readsOld entry.row (List.mem_of_getElem? own.1)) own.2 here
    rw [marksAt_flatMap, List.flatMap_def, List.map_congr_left visits, ← List.flatMap_def]
    split
    · rw [List.map_eq_flatMap, flatMap_filter]
      exact flatMap_keyedRows key (fun _ other =>
        if (key.agree other row && textsDiffer other row column) = true then
          [updateMark (other.cell column)] else []) old
    · exact List.flatMap_eq_nil_iff.2 fun _ _ => rfl
  rw [Comparison.completed key completed]
  show marksAt .new place column (_ ++ _) = _
  rw [marksAt_append, updates, marksAt_ofNewRows_new key distinct column old here]
  unfold newMarks
  by_cases inside : column ∈ columns
  · cases counterpart : old.any (key.agree · row) with
    | true => cases (new.take place).any (key.agree · row) <;> simp [inside]
    | false =>
      -- no old row agrees with the row, so none is filtered out for an update
      have none_agree : (old.filter fun other =>
          key.agree other row && textsDiffer other row column) = [] := by
        rw [List.filter_eq_nil_iff]
        intro other member holds
        exact List.any_eq_false.1 counterpart other member (Bool.and_eq_true _ _ ▸ holds).1
      rw [none_agree]
      simp [inside]
  · simp [inside]

end Cells

end QueryDesk
