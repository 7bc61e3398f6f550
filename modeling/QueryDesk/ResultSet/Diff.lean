/-
**Differences between two result sets.**

Rows are matched by a key; the differences are marks on the cells of both sets.

* `RowKey` — the value a row is matched by: the texts of several cells in one, or one
  cell's value, where truth values only match truth values. There is none where a text is
  asked for that a value does not have.
* `Edit` — a mark to be put on a cell of the old or the new set. A comparison yields a list of edits
  (`Comparison.run`), which are then carried out in order (`applyEdits`).
* `diff` — the comparison of two sets, both of which lose their earlier marks; `diffWithItself`
  compares a set with itself, where every row matches itself whatever its values.
-/

import QueryDesk.ResultSet.Basic
import QueryDesk.Value.Equality
import QueryDesk.Value.Text

namespace QueryDesk

/-! ### Keys of rows -/

/-- The text between the parts of a composite key. -/
def keySeparator : String := "|:|"

/-- The value a row is matched by. -/
inductive RowKey where
  /-- The texts of several cells. -/
  | composite (text : String)
  /-- The value of one cell. -/
  | unique (value : Value)
  /-- No value, since a text that it is made of does not exist. -/
  | unmade (fault : Fault)
deriving Repr

namespace RowKey

/-- A value that may be a key: nothing is the empty text, containers that can
change are their texts. -/
def keyValue : Value → Except Fault Value
  | .null => .ok (.text "")
  | .list items => (Value.list items).written.map .text
  | .set items => (Value.set items).written.map .text
  | .dict entries => (Value.dict entries).written.map .text
  | value => .ok value

/-- The texts of several cells, up to the first that has none. -/
def cellTexts (row : Row) (names : List String) : Except Fault (List String) :=
  names.mapM fun name => (row.cell name).cellText

/-- A key made of something, if this exists. -/
def ofMade {α : Type} (make : α → RowKey) : Except Fault α → RowKey
  | .ok part => make part
  | .error fault => .unmade fault

/-- The key of a row. -/
def ofRow (key : CompareKey) (row : Row) : RowKey :=
  match key with
  | .composite _ names =>
    ofMade (fun texts => .composite (keySeparator.intercalate texts)) (cellTexts row names)
  | .unique name => ofMade .unique (keyValue (row.cell name))

/-- Whether a value is a truth value. -/
def isTruth : Value → Bool
  | .bool _ => true
  | _ => false

/-- Whether two keys are the same. -/
def same : RowKey → RowKey → Bool
  | .composite a, .composite b => a == b
  | .unique a, .unique b => isTruth a == isTruth b && Value.sameKey a b
  | _, _ => false

/-- Succeeds when a key can be looked up. -/
def check : RowKey → Except Fault Unit
  | .composite _ => .ok ()
  | .unique value => value.checkKey
  | .unmade fault => .error fault

/-- A key as data. -/
def toValue : RowKey → Except Fault Value
  | .composite text => .ok (.text text)
  | .unique value => .ok (.tuple [.bool (isTruth value), value])
  | .unmade fault => .error fault

end RowKey

/-- A row with its number, from zero, and its key. -/
structure KeyedRow where
  place : Nat
  key : RowKey
  row : Row
deriving Repr

/-- Rows with their places and keys, the first with the given number. -/
def keyedRowsFrom (key : CompareKey) : Nat → List Row → List KeyedRow
  | _, [] => []
  | place, row :: rest => ⟨place, .ofRow key row, row⟩ :: keyedRowsFrom key (place + 1) rest

/-- Rows with their places and keys. -/
def keyedRows (key : CompareKey) (rows : List Row) : List KeyedRow := keyedRowsFrom key 0 rows

/-! ### Edits -/

/-- One of the two sets of a comparison. -/
inductive Side where
  | old
  | new
deriving DecidableEq, Repr

/-- A mark to be put on a cell of one of two sets; rows are numbered from zero. -/
structure Edit where
  side : Side
  row : Nat
  column : String
  mark : Mark
deriving Repr

/-- The same mark on all columns of a row. -/
def editsOfRow (side : Side) (place : Nat) (columns : List String) (kind : MarkKind) : List Edit :=
  columns.map fun column => ⟨side, place, column, .plain kind⟩

/-- The mark of a cell whose counterpart holds another value. -/
def updateMark (other : Value) : Mark := ⟨.updated, some [("other_value", other)]⟩

/-- Whether the cells of a column have different texts, if both have one. -/
def cellsDiffer (old new : Row) (column : String) : Except Fault Bool := do
  let left ← (old.cell column).cellText
  let right ← (new.cell column).cellText
  pure (left != right)

/-- The edits for two different cells: each shows the other's value. -/
def editsOfCells (old new : KeyedRow) (column : String) : List Edit :=
  [⟨.old, old.place, column, updateMark (new.row.cell column)⟩,
    ⟨.new, new.place, column, updateMark (old.row.cell column)⟩]

/-- The rows with the edits of one side carried out in order. -/
def applyEdits (side : Side) (edits : List Edit) (rows : List Row) : List Row :=
  (edits.filter fun edit => edit.side == side).foldl
    (fun done edit => done.modify edit.row (Row.push edit.column edit.mark)) rows

/-! ### Comparison -/

/-- What a comparison found: the edits, the numbers of old rows without a counterpart, of old rows
that differ from theirs and of new rows without one, and why it could not be completed. -/
structure Comparison where
  edits : List Edit
  deleted : Nat
  updated : Nat
  inserted : Nat
  fault : Option Fault
deriving Repr

namespace Comparison

/-- Nothing found. -/
def nothing : Comparison := ⟨[], 0, 0, 0, none⟩

/-- A comparison that could not even begin. -/
def stopped (fault : Fault) : Comparison := { nothing with fault := some fault }

/-- What is found first and, unless this ends the comparison, what is found after it. -/
def andThen (first second : Comparison) : Comparison :=
  if first.fault.isSome then first
  else
    ⟨first.edits ++ second.edits, first.deleted + second.deleted, first.updated + second.updated,
      first.inserted + second.inserted, second.fault⟩

/-- What is found about a matched pair of rows, column by column, up to a cell without a text. -/
def ofPair (old new : KeyedRow) : List String → Comparison
  | [] => nothing
  | column :: rest =>
    match cellsDiffer old.row new.row column with
    | .error fault => stopped fault
    | .ok differ =>
      { nothing with edits := if differ then editsOfCells old new column else [] }.andThen
        (ofPair old new rest)

/-- What is found about an old row. -/
def ofOldRow (matches? : KeyedRow → KeyedRow → Bool) (columns : List String)
    (new : List KeyedRow) (row : KeyedRow) : Comparison :=
  match new.find? (matches? row) with
  | none => { nothing with edits := editsOfRow .old row.place columns .deleted, deleted := 1 }
  | some other =>
    let found := ofPair row other columns
    { found with updated := if found.edits.isEmpty then 0 else 1 }

/-- What is found about the old rows, one after another, up to one whose key cannot be looked up
or that cannot be compared. -/
def ofOldRows (matches? : KeyedRow → KeyedRow → Bool) (columns : List String)
    (new : List KeyedRow) : List KeyedRow → Comparison
  | [] => nothing
  | row :: rest =>
    match row.key.check with
    | .error fault => stopped fault
    | .ok () => (ofOldRow matches? columns new row).andThen (ofOldRows matches? columns new rest)

/-- What is found about the new rows. -/
def ofNewRows (matches? : KeyedRow → KeyedRow → Bool) (columns : List String)
    (old : List KeyedRow) (new : List KeyedRow) : Comparison :=
  let added := new.filter fun row => !old.any fun other => matches? other row
  { nothing with
    edits := added.flatMap fun row => editsOfRow .new row.place columns .added
    inserted := added.length }

/-- The first reason why the key of a row cannot be looked up. -/
def keyFault? : List KeyedRow → Option Fault
  | [] => none
  | row :: rest =>
    match row.key.check with
    | .error fault => some fault
    | .ok () => keyFault? rest

/-- The comparison of keyed rows. -/
def run (matches? : KeyedRow → KeyedRow → Bool) (columns : List String)
    (old new : List KeyedRow) : Comparison :=
  match keyFault? new with
  | some fault => stopped fault
  | none => (ofOldRows matches? columns new old).andThen (ofNewRows matches? columns old new)

end Comparison

/-! ### Reports -/

/-- What is said about a comparison: whether the sets could be compared, the numbers of rows without
a counterpart and of rows that differ from theirs, and a summary. -/
structure DiffReport where
  ok : Bool
  inserted : Nat
  deleted : Nat
  updated : Nat
  message : String
deriving DecidableEq, Repr

namespace DiffReport

/-- A comparison that was not made. -/
def refused (message : String) : DiffReport := ⟨false, 0, 0, 0, message⟩

/-- The summary of a comparison. -/
def summary (inserted deleted updated : Nat) : String :=
  if inserted = 0 ∧ deleted = 0 ∧ updated = 0 then "No changes"
  else "Inserted:" ++ toString inserted ++ ", Deleted:" ++ toString deleted ++ ", Updated:" ++
    toString updated

/-- The report of a completed comparison. -/
def ofComparison (found : Comparison) : DiffReport :=
  ⟨true, found.inserted, found.deleted, found.updated,
    summary found.inserted found.deleted found.updated⟩

end DiffReport

/-- The message when a set names no keys. -/
def missingKeyMessage : String := "Missing compare key (Primary or uniq key)."

/-- The message when a set has the columns of none of its keys. -/
def missingAvailableKeyMessage : String := "Missing available compare key (Primary or uniq key)."

namespace ResultSet

/-- The key by which the rows of a set are matched, or the message why there is none. -/
def matchingKey (set : ResultSet) : Except String CompareKey :=
  match set.origin.compareKeys with
  | none => .error missingKeyMessage
  | some [] => .error missingKeyMessage
  | some keys =>
    match CompareKey.firstAvailable? set.names keys with
    | some key => .ok key
    | none => .error missingAvailableKeyMessage

/-- The report of a comparison, or the fault that ended it. -/
def reportOf (found : Comparison) : Except Failure DiffReport :=
  match found.fault with
  | some fault => .error (.value fault)
  | none => .ok (.ofComparison found)

/-- The set with other rows. -/
def withRows (set : ResultSet) (rows : List Row) : ResultSet := { set with rows }

end ResultSet

/-- Two sets after their comparison, with the report or the failure that ended it. -/
structure DiffOutcome where
  old : ResultSet
  new : ResultSet
  report : Except Failure DiffReport

/-- Compares two sets. -/
def diff (old new : ResultSet) : DiffOutcome :=
  match old.matchingKey with
  | .error message => ⟨old, new, .ok (.refused message)⟩
  | .ok key =>
    let clearedOld := old.clear none
    let clearedNew := new.clear none
    let found := Comparison.run (fun a b => a.key.same b.key) old.names
      (keyedRows key clearedOld.rows) (keyedRows key clearedNew.rows)
    ⟨clearedOld.withRows (applyEdits .old found.edits clearedOld.rows),
      clearedNew.withRows (applyEdits .new found.edits clearedNew.rows), ResultSet.reportOf found⟩

/-- Compares a set with itself: the edits of both sides are carried out on it, each in its turn. -/
def diffWithItself (set : ResultSet) : ResultSet × Except Failure DiffReport :=
  match set.matchingKey with
  | .error message => (set, .ok (.refused message))
  | .ok key =>
    let cleared := set.clear none
    let keyed := keyedRows key cleared.rows
    let found :=
      Comparison.run (fun a b => a.place == b.place || a.key.same b.key) set.names keyed keyed
    let edits := found.edits.map fun edit => { edit with side := .old }
    (cleared.withRows (applyEdits .old edits cleared.rows), ResultSet.reportOf found)

end QueryDesk
