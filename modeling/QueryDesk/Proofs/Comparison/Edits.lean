/-
**What edits put on a cell.**

* `marksAt` — the marks that a list of edits puts on one cell of one side, in order.
* `getElem?_applyEdits` — carrying out edits keeps the values of every row, and a cell holds what it
  held before and behind it the marks put on it.
* `textsDiffer`, `editsOfPair`, `Comparison.ofPair_of_hasTexts` — the edits for a pair of rows all
  of whose cells have a text; `Comparison.fault_ofPair_iff` — there are none for others.
* `marksAt_editsOfRow`, `marksAt_editsOfPair` — the marks for a row without a
  counterpart, and for a pair of rows.
* `map_keyedRows`, `flatMap_keyedRows_at` — keyed rows visited in turn, all of
  them or only the one at a place.
-/

import QueryDesk.Proofs.RowMarks
import QueryDesk.Proofs.Value.Texts

namespace QueryDesk

/-! ### Pairs of rows -/

/-- Whether the cells of a column, which have a text, have different ones. -/
def textsDiffer (old new : Row) (column : String) : Bool :=
  (old.cell column).bareText != (new.cell column).bareText

/-- The edits for a matched pair of rows whose cells have texts: each of two different
cells shows the other's value. -/
def editsOfPair (columns : List String) (old new : KeyedRow) : List Edit :=
  (columns.filter (textsDiffer old.row new.row)).flatMap (editsOfCells old new)

/-- Cells with texts differ exactly when these do. -/
theorem cellsDiffer_of_hasText {old new : Row} {column : String}
    (left : (old.cell column).hasText = true) (right : (new.cell column).hasText = true) :
    cellsDiffer old new column = .ok (textsDiffer old new column) := by
  unfold cellsDiffer
  rw [Value.cellText_eq_ok_iff.2 ⟨left, rfl⟩, Value.cellText_eq_ok_iff.2 ⟨right, rfl⟩]
  rfl

/-- Only cells with texts are compared. -/
theorem hasText_of_cellsDiffer {old new : Row} {column : String} {differ : Bool}
    (compared : cellsDiffer old new column = .ok differ) :
    (old.cell column).hasText = true ∧ (new.cell column).hasText = true := by
  obtain ⟨_, left, rest⟩ := bind_eq_ok_iff.1 compared
  obtain ⟨_, right, -⟩ := bind_eq_ok_iff.1 rest
  exact ⟨(Value.cellText_eq_ok_iff.1 left).1, (Value.cellText_eq_ok_iff.1 right).1⟩

namespace Comparison

/-- What comes after a part that did not end the comparison is found as well. -/
theorem andThen_of_completed {first : Comparison} (completed : first.fault = none)
    (second : Comparison) :
    first.andThen second =
      ⟨first.edits ++ second.edits, first.deleted + second.deleted, first.updated + second.updated,
        first.inserted + second.inserted, second.fault⟩ := by
  unfold andThen
  rw [completed]
  rfl

/-- A comparison is completed when both parts of it are. -/
theorem fault_andThen_iff {first second : Comparison} :
    (first.andThen second).fault = none ↔ first.fault = none ∧ second.fault = none := by
  cases own : first.fault with
  | none => simp [andThen_of_completed own]
  | some fault => simp [andThen, own]

/-- What ends a comparison ends one of its parts. -/
theorem fault_andThen_of_some {first second : Comparison} {fault : Fault}
    (ended : (first.andThen second).fault = some fault) :
    first.fault = some fault ∨ second.fault = some fault := by
  cases own : first.fault with
  | none =>
    rw [andThen_of_completed own] at ended
    exact .inr ended
  | some other =>
    unfold andThen at ended
    rw [own] at ended
    exact .inl (own.symm.trans ended)

/-- A pair of rows cannot be compared for want of a text only. -/
theorem fault_of_ofPair {old new : KeyedRow} {fault : Fault} {columns : List String}
    (ended : (ofPair old new columns).fault = some fault) : fault = .tooManyDigits := by
  induction columns with
  | nil => cases ended
  | cons column rest ih =>
    rw [ofPair] at ended
    cases compared : cellsDiffer old.row new.row column with
    | ok differ =>
      rw [compared] at ended
      exact (fault_andThen_of_some ended).elim nofun ih
    | error found =>
      rw [compared] at ended
      obtain rfl : found = fault := Option.some.inj ended
      rcases bind_eq_error_iff.1 compared with left | ⟨_, -, rest⟩
      · exact (Value.cellText_eq_error_iff.1 left).1
      · rcases bind_eq_error_iff.1 rest with right | ⟨_, -, impossible⟩
        · exact (Value.cellText_eq_error_iff.1 right).1
        · cases impossible

/-- A pair of rows can be compared when all cells of both have a text. -/
theorem fault_ofPair_iff (old new : KeyedRow) (columns : List String) :
    (ofPair old new columns).fault = none ↔ old.row.HasTexts columns ∧
      new.row.HasTexts columns := by
  induction columns with
  | nil => exact iff_of_true rfl ⟨nofun, nofun⟩
  | cons column rest ih =>
    rw [ofPair, Row.HasTexts, Row.HasTexts, List.forall_mem_cons, List.forall_mem_cons]
    cases compared : cellsDiffer old.row new.row column with
    | error fault =>
      refine iff_of_false nofun ?_
      rintro ⟨⟨left, -⟩, right, -⟩
      rw [cellsDiffer_of_hasText left right] at compared
      cases compared
    | ok differ =>
      obtain ⟨left, right⟩ := hasText_of_cellsDiffer compared
      rw [and_iff_right left, and_iff_right right, fault_andThen_iff]
      exact (and_iff_right rfl).trans ih

/-- **What is found about a pair of rows** whose cells all have a text. -/
theorem ofPair_of_hasTexts {old new : KeyedRow} {columns : List String}
    (left : old.row.HasTexts columns) (right : new.row.HasTexts columns) :
    ofPair old new columns = ⟨editsOfPair columns old new, 0, 0, 0, none⟩ := by
  induction columns with
  | nil => rfl
  | cons column rest ih =>
    obtain ⟨here, later⟩ := List.forall_mem_cons.1 left
    obtain ⟨there, others⟩ := List.forall_mem_cons.1 right
    rw [ofPair, cellsDiffer_of_hasText here there, ih later others]
    show andThen ⟨if textsDiffer old.row new.row column then editsOfCells old new column else [],
      0, 0, 0, none⟩ ⟨editsOfPair rest old new, 0, 0, 0, none⟩ = _
    rw [andThen_of_completed rfl]
    unfold editsOfPair
    rw [List.filter_cons]
    cases textsDiffer old.row new.row column <;> rfl

end Comparison

/-! ### Marks on one cell -/

/-- The marks that edits put on one cell, in order. -/
def marksAt (side : Side) (place : Nat) (column : String) (edits : List Edit) : List Mark :=
  (edits.filter fun edit => edit.side == side && edit.row == place && edit.column == column).map
    Edit.mark

section Marks

variable (side : Side) (place : Nat) (column : String)

@[simp] theorem marksAt_nil : marksAt side place column [] = [] := rfl

theorem marksAt_cons (edit : Edit) (rest : List Edit) :
    marksAt side place column (edit :: rest) =
      (if edit.side = side ∧ edit.row = place ∧ edit.column = column then [edit.mark] else []) ++
        marksAt side place column rest := by
  unfold marksAt
  by_cases here : edit.side = side ∧ edit.row = place ∧ edit.column = column
  · obtain ⟨rfl, rfl, rfl⟩ := here
    simp
  · have skipped : (edit.side == side && edit.row == place && edit.column == column) = false := by
      rw [Bool.eq_false_iff]
      intro holds
      simp only [Bool.and_eq_true, beq_iff_eq] at holds
      exact here ⟨holds.1.1, holds.1.2, holds.2⟩
    rw [List.filter_cons_of_neg (by rw [skipped]; exact Bool.false_ne_true), if_neg here]
    rfl

theorem marksAt_append (first second : List Edit) :
    marksAt side place column (first ++ second) =
      marksAt side place column first ++ marksAt side place column second := by
  unfold marksAt
  rw [List.filter_append, List.map_append]

theorem marksAt_flatMap {α : Type} (each : α → List Edit) (items : List α) :
    marksAt side place column (items.flatMap each) =
      items.flatMap fun item => marksAt side place column (each item) := by
  induction items with
  | nil => rfl
  | cons item rest ih => rw [List.flatMap_cons, List.flatMap_cons, marksAt_append, ih]

/-! ### Edits carried out -/

theorem applyEdits_cons (edit : Edit) (rest : List Edit) (rows : List Row) :
    applyEdits side (edit :: rest) rows = applyEdits side rest
      (if edit.side = side then rows.modify edit.row (Row.push edit.column edit.mark)
        else rows) := by
  unfold applyEdits
  by_cases here : edit.side = side
  · have taken : (edit.side == side) = true := beq_iff_eq.2 here
    rw [if_pos here, List.filter_cons, if_pos taken, List.foldl_cons]
  · have skipped : ¬ (edit.side == side) = true := mt beq_iff_eq.1 here
    rw [if_neg here, List.filter_cons, if_neg skipped]

/-- The marks that edits push on one row, each with its column. -/
def pushesAt (edits : List Edit) : List (String × Mark) :=
  (edits.filter fun edit => edit.side == side && edit.row == place).map
    fun edit => (edit.column, edit.mark)

theorem pushedOn_pushesAt (edits : List Edit) :
    Row.pushedOn column (pushesAt side place edits) = marksAt side place column edits := by
  unfold Row.pushedOn pushesAt marksAt
  rw [List.filter_map, List.map_map, List.filter_filter]
  simp only [Function.comp_def, Bool.and_comm]

/-- **A row after the edits** is the row with the marks of the edits of its place pushed on it. -/
theorem getElem?_applyEdits (edits : List Edit) (rows : List Row) :
    (applyEdits side edits rows)[place]? =
      rows[place]?.map fun row => row.pushEach (pushesAt side place edits) := by
  induction edits generalizing rows with
  | nil =>
    show rows[place]? = rows[place]?.map id
    rw [Option.map_id_fun, id]
  | cons edit rest ih =>
    rw [applyEdits_cons, ih]
    by_cases here : edit.side = side
    · by_cases same : edit.row = place
      · have pushed : pushesAt side place (edit :: rest) =
            (edit.column, edit.mark) :: pushesAt side place rest := by
          simp [pushesAt, here, same]
        rw [if_pos here, List.getElem?_modify, pushed]
        simp only [same, if_true, Option.map_eq_map, Option.map_map, Row.pushEach_cons,
          Function.comp_def]
      · have skipped : pushesAt side place (edit :: rest) = pushesAt side place rest := by
          simp [pushesAt, same]
        rw [if_pos here, List.getElem?_modify, skipped]
        simp only [same, if_false, Option.map_eq_map, Option.map_id']
    · have skipped : pushesAt side place (edit :: rest) = pushesAt side place rest := by
        simp [pushesAt, here]
      rw [if_neg here, skipped]

/-- Edits change the number of rows in neither direction. -/
theorem length_applyEdits (edits : List Edit) (rows : List Row) :
    (applyEdits side edits rows).length = rows.length := by
  induction edits generalizing rows with
  | nil => rfl
  | cons edit rest ih =>
    rw [applyEdits_cons, ih]
    split
    · exact List.length_modify ..
    · rfl

/-! ### Columns visited in turn -/

/-- Distinct columns visited in turn, where only one of them gives anything. -/
theorem flatMap_only {α : Type} (each : String → List α) :
    ∀ {columns : List String}, columns.Nodup →
      columns.flatMap (fun visited => if visited = column then each visited else []) =
        if column ∈ columns then each column else []
  | [], _ => rfl
  | visited :: rest, distinct => by
    obtain ⟨once, distinctRest⟩ := List.nodup_cons.1 distinct
    rw [List.flatMap_cons, flatMap_only each distinctRest]
    by_cases here : visited = column
    · subst here
      rw [if_pos rfl, if_neg once, if_pos List.mem_cons_self, List.append_nil]
    · have elsewhere : column ∈ visited :: rest ↔ column ∈ rest := by
        rw [List.mem_cons, or_iff_right fun same => here same.symm]
      rw [if_neg here, List.nil_append]
      simp only [elsewhere]

/-- No marks are put on a column that the edits do not name. -/
theorem marksAt_of_other {visited : String} (differs : visited ≠ column) {edits : List Edit}
    (own : ∀ edit ∈ edits, edit.column = visited) : marksAt side place column edits = [] := by
  unfold marksAt
  rw [List.map_eq_nil_iff, List.filter_eq_nil_iff]
  intro edit member holds
  simp only [Bool.and_eq_true, beq_iff_eq] at holds
  exact differs ((own edit member).symm.trans holds.2)

/-- The marks of edits made for distinct columns in turn are those of the edits for the column. -/
theorem marksAt_columns {columns : List String} (distinct : columns.Nodup)
    (each : String → List Edit) (own : ∀ visited, ∀ edit ∈ each visited, edit.column = visited) :
    marksAt side place column (columns.flatMap each) =
      if column ∈ columns then marksAt side place column (each column) else [] := by
  rw [marksAt_flatMap, ← flatMap_only column
    (fun visited => marksAt side place column (each visited))
    distinct]
  refine congrArg (columns.flatMap ·) (funext fun visited => ?_)
  by_cases here : visited = column
  · rw [if_pos here]
  · rw [if_neg here]
    exact marksAt_of_other side place column here (own visited)

/-- The marks of a row that has no counterpart. -/
theorem marksAt_editsOfRow {columns : List String} (distinct : columns.Nodup) (other : Side)
    (row : Nat) (kind : MarkKind) :
    marksAt side place column (editsOfRow other row columns kind) =
      if other = side ∧ row = place ∧ column ∈ columns then [.plain kind] else [] := by
  unfold editsOfRow
  rw [List.map_eq_flatMap, marksAt_columns side place column distinct]
  · rw [marksAt_cons, marksAt_nil, List.append_nil]
    by_cases inside : column ∈ columns <;> simp [inside]
  · intro visited edit member
    rw [List.mem_singleton.1 member]

/-- The marks of a pair of rows: each of two different cells shows the other's value. -/
theorem marksAt_editsOfPair {columns : List String} (distinct : columns.Nodup)
    (old new : KeyedRow) :
    marksAt side place column (editsOfPair columns old new) =
      if column ∈ columns ∧ textsDiffer old.row new.row column = true then
        match side with
        | .old => if old.place = place then [updateMark (new.row.cell column)] else []
        | .new => if new.place = place then [updateMark (old.row.cell column)] else []
      else [] := by
  unfold editsOfPair
  rw [marksAt_columns side place column (distinct.filter _)]
  · simp only [List.mem_filter]
    refine congrArg (ite _ · []) ?_
    rw [editsOfCells, marksAt_cons, marksAt_cons, marksAt_nil]
    cases side <;> simp
  · intro visited edit member
    simp only [editsOfCells, List.mem_cons, List.not_mem_nil, or_false] at member
    rcases member with rfl | rfl <;> rfl

end Marks

/-! ### Keyed rows visited in turn -/

section Keyed

variable (key : CompareKey)

/-- By induction on the rows: each stands with its number and its key. -/
theorem getElem?_keyedRowsFrom (rows : List Row) (first place : Nat) :
    (keyedRowsFrom key first rows)[place]? =
      rows[place]?.map fun row => ⟨first + place, .ofRow key row, row⟩ := by
  induction rows generalizing first place with
  | nil => rfl
  | cons row rest ih =>
    cases place with
    | zero => rfl
    | succ place =>
      rw [keyedRowsFrom, List.getElem?_cons_succ, List.getElem?_cons_succ, ih,
        Nat.add_right_comm, Nat.add_assoc]

/-- The keyed row at a place. -/
theorem getElem?_keyedRows (rows : List Row) (place : Nat) :
    (keyedRows key rows)[place]? = rows[place]?.map fun row => ⟨place, .ofRow key row, row⟩ := by
  unfold keyedRows
  rw [getElem?_keyedRowsFrom, Nat.zero_add]

/-- A keyed row stands at its place and has the key of its row. -/
theorem mem_keyedRows {rows : List Row} {entry : KeyedRow} :
    entry ∈ keyedRows key rows ↔
      rows[entry.place]? = some entry.row ∧ entry.key = .ofRow key entry.row := by
  rw [List.mem_iff_getElem?]
  simp only [getElem?_keyedRows, Option.map_eq_some_iff]
  constructor
  · rintro ⟨place, row, found, rfl⟩
    exact ⟨found, rfl⟩
  · rintro ⟨found, same⟩
    exact ⟨entry.place, entry.row, found, by rw [← same]⟩

/-- No keyed row stands before the first place. -/
theorem le_place_of_mem {rows : List Row} {first : Nat} {entry : KeyedRow}
    (member : entry ∈ keyedRowsFrom key first rows) : first ≤ entry.place := by
  obtain ⟨place, found⟩ := List.mem_iff_getElem?.1 member
  rw [getElem?_keyedRowsFrom] at found
  obtain ⟨row, _, rfl⟩ := Option.map_eq_some_iff.1 found
  exact Nat.le_add_right first place

/-- Keyed rows visited in turn, whatever their places. -/
theorem map_keyedRows {α : Type} (each : RowKey → Row → α) (rows : List Row) :
    (keyedRows key rows).map (fun entry => each entry.key entry.row) =
      rows.map fun row => each (.ofRow key row) row := by
  unfold keyedRows
  generalize 0 = first
  induction rows generalizing first with
  | nil => rfl
  | cons row rest ih => rw [keyedRowsFrom, List.map_cons, List.map_cons, ih]

theorem flatMap_keyedRows {α : Type} (each : RowKey → Row → List α) (rows : List Row) :
    (keyedRows key rows).flatMap (fun entry => each entry.key entry.row) =
      rows.flatMap fun row => each (.ofRow key row) row := by
  rw [List.flatMap_def, List.flatMap_def, map_keyedRows]

/-- Keyed rows visited in turn, where only the one at a place gives anything. -/
theorem flatMap_keyedRowsFrom_at {α : Type} (each : RowKey → Row → List α) (rows : List Row)
    (first place : Nat) :
    (keyedRowsFrom key first rows).flatMap
        (fun entry => if entry.place = first + place then each entry.key entry.row else []) =
      (rows[place]?.map fun row => each (.ofRow key row) row).getD [] := by
  induction rows generalizing first place with
  | nil => rfl
  | cons row rest ih =>
    rw [keyedRowsFrom, List.flatMap_cons]
    cases place with
    | zero =>
      have others : (keyedRowsFrom key (first + 1) rest).flatMap
          (fun entry => if entry.place = first + 0 then each entry.key entry.row else []) = [] := by
        rw [List.flatMap_eq_nil_iff]
        intro entry member
        have behind := le_place_of_mem key member
        exact if_neg (by omega)
      rw [others, List.append_nil]
      exact if_pos rfl
    | succ place =>
      have next := ih (first + 1) place
      rw [Nat.add_right_comm, Nat.add_assoc] at next
      rw [next, List.getElem?_cons_succ, if_neg (by show ¬ first = first + (place + 1); omega),
        List.nil_append]

theorem flatMap_keyedRows_at {α : Type} (each : RowKey → Row → List α) (rows : List Row)
    (place : Nat) :
    (keyedRows key rows).flatMap
        (fun entry => if entry.place = place then each entry.key entry.row else []) =
      (rows[place]?.map fun row => each (.ofRow key row) row).getD [] := by
  have visits := flatMap_keyedRowsFrom_at key each rows 0 place
  rw [Nat.zero_add] at visits
  exact visits

end Keyed

end QueryDesk
