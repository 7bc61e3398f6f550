/-
**A comparison read from the other side.**

A comparison treats its two sets differently: the new rows are looked up by the old ones, and the
first of several new rows counts. Where no two rows of a set share a key, this makes no difference:

* `newMarks_mirrored` — what a row is to carry as a new row is what it is to carry as an old one,
  with additions for deletions.
* `countP_updated_swapped` — as many rows differ from their counterparts on either side.
* `diff_mirrored` — comparing the sets the other way round leaves the same marks on both, with
  additions and deletions exchanged, and counts accordingly.
-/

import QueryDesk.Proofs.Comparison.Outcome
import QueryDesk.Proofs.Matching.Partners

namespace QueryDesk

/-! ### Additions for deletions -/

/-- The kind with additions and deletions exchanged. -/
def MarkKind.mirrored : MarkKind → MarkKind
  | .added => .deleted
  | .deleted => .added
  | .updated => .updated
  | .violated => .violated

/-- The mark with additions and deletions exchanged; the values it shows stay. -/
def Mark.mirrored (mark : Mark) : Mark := { mark with kind := mark.kind.mirrored }

/-- Rows that carry, cell by cell, the marks of other rows with additions and
deletions exchanged. -/
def Mirrors (rows others : List Row) : Prop :=
  others.length = rows.length ∧ ∀ (place : Nat) (row other : Row), rows[place]? = some row →
    others[place]? = some other → ∀ column : String,
      other.marks.of column none = (row.marks.of column none).map Mark.mirrored

/-- Rows that carry what they are to carry mirror others when what these are to carry does. -/
theorem Carries.mirrors {rows marked others : List Row}
    {expected opposite : Nat → Row → String → List Mark}
    (carries : Carries rows marked expected) (carriesOther : Carries rows others opposite)
    (mirrored : ∀ place row, rows[place]? = some row →
      ∀ column, opposite place row column = (expected place row column).map Mark.mirrored) :
    Mirrors marked others := by
  refine ⟨carriesOther.1.trans carries.1.symm, fun place after afterOther here there column => ?_⟩
  have inside : place < rows.length := by
    rw [← carries.1]
    exact (List.getElem?_eq_some_iff.1 here).1
  obtain ⟨row, own⟩ : ∃ row, rows[place]? = some row := ⟨_, List.getElem?_eq_getElem inside⟩
  obtain ⟨_, found, -, marks⟩ := carries.2 place row own
  obtain ⟨_, foundOther, -, marksOther⟩ := carriesOther.2 place row own
  obtain rfl := Option.some.inj (here.symm.trans found)
  obtain rfl := Option.some.inj (there.symm.trans foundOther)
  rw [marks, marksOther]
  exact mirrored place row own column

/-! ### Rows from both sides -/

section Sides

variable {key : CompareKey} {left right : List Row}
  (readsLeft : ∀ row ∈ left, key.reads row) (readsRight : ∀ row ∈ right, key.reads row)

/-- Two rows whose keys can be looked up agree from either side. -/
theorem CompareKey.agree_comm {row other : Row} (readsRow : key.reads row)
    (readsOther : key.reads other) : key.agree row other = key.agree other row := by
  rw [Bool.eq_iff_iff]
  exact ⟨key.agree_symm readsRow readsOther, key.agree_symm readsOther readsRow⟩

theorem textsDiffer_comm (row other : Row) (column : String) :
    textsDiffer row other column = textsDiffer other row column := bne_comm

include readsRight in
/-- A row is agreed with as it agrees. -/
theorem any_agree_comm {row : Row} (reads : key.reads row) :
    right.any (key.agree · row) = right.any (key.agree row) := by
  rw [Bool.eq_iff_iff, List.any_eq_true, List.any_eq_true]
  refine exists_congr fun other => and_congr_right fun member => ?_
  rw [key.agree_comm (readsRight other member) reads]

/-- No earlier row has the key of a row. -/
theorem CompareKey.Separates.any_take (apart : key.Separates left) {place : Nat} {row : Row}
    (here : left[place]? = some row) : (left.take place).any (key.agree · row) = false := by
  obtain ⟨inside, rfl⟩ := List.getElem?_eq_some_iff.1 here
  rw [List.any_eq_false]
  intro earlier member
  obtain ⟨before, bound, rfl⟩ := List.mem_take_iff_getElem.1 member
  rw [Bool.not_eq_true]
  exact List.pairwise_iff_getElem.1 apart before place _ inside (by omega)

include readsLeft readsRight in
/-- The rows that agree with a row are its counterpart, if there is one. -/
theorem filter_agree (rightApart : key.Separates right) {row : Row} (member : row ∈ left) :
    right.filter (key.agree · row) = (right.find? (key.agree row)).toList := by
  rw [← filter_partner (rightApart.pairsOnce_swapped readsRight readsLeft) member]
  refine List.filter_congr fun other inside => ?_
  exact key.agree_comm (readsRight other inside) (readsLeft row member)

include readsLeft readsRight in
/-- **What a row is to carry as a new row** is what it is to carry as an old one, mirrored. -/
theorem newMarks_mirrored (leftApart : key.Separates left) (rightApart : key.Separates right)
    (columns : List String) {place : Nat} {row : Row} (here : left[place]? = some row)
    (column : String) :
    newMarks key columns right (left.take place) row column =
      (oldMarks key columns right row column).map Mark.mirrored := by
  have member := List.mem_of_getElem? here
  have first := leftApart.any_take here
  have agreeing := filter_agree readsLeft readsRight rightApart member
  have matched : right.any (key.agree · row) = (right.find? (key.agree row)).isSome := by
    rw [any_agree_comm readsRight (readsLeft row member), List.isSome_find?]
  unfold newMarks oldMarks
  by_cases inside : column ∈ columns
  · rw [if_pos inside, if_pos inside, matched, first]
    cases found : right.find? (key.agree row) with
    | none => rfl
    | some other =>
      rw [found] at agreeing
      have differing : (right.filter fun other =>
            key.agree other row && textsDiffer other row column) =
          if textsDiffer row other column = true then [other] else [] := by
        have swapped : (fun other => key.agree other row && textsDiffer other row column) =
            fun other => textsDiffer row other column && key.agree other row :=
          funext fun other => by rw [Bool.and_comm, textsDiffer_comm]
        rw [swapped, ← List.filter_filter, agreeing, Option.toList_some, List.filter_cons,
          List.filter_nil]
      simp only [differing, Option.isSome_some, if_true, Bool.false_eq_true, if_false]
      split <;> rfl
  · rw [if_neg inside, if_neg inside]
    rfl

include readsLeft readsRight in
/-- A row has a counterpart that passes a test when it agrees with a row that does. -/
theorem any_counterpart (rightApart : key.Separates right) {row : Row} (member : row ∈ left)
    (test : Row → Bool) :
    (right.find? (key.agree row)).any test = right.any fun other => key.agree row other &&
      test other := by
  have partner := fun other => find?_partner (rightApart.pairsOnce_swapped readsRight readsLeft)
    member (b := other)
  rw [Bool.eq_iff_iff, Option.any_eq_true, List.any_eq_true]
  refine exists_congr fun other => ?_
  rw [partner, Bool.and_eq_true, and_assoc]

include readsLeft readsRight in
/-- **As many rows differ from their counterparts on either side.** -/
theorem countP_updated_swapped (leftApart : key.Separates left) (rightApart : key.Separates right)
    (columns : List String) :
    right.countP (fun row =>
        (left.find? (key.agree row)).any fun other => columns.any (textsDiffer row other)) =
      left.countP fun row =>
        (right.find? (key.agree row)).any fun other => columns.any (textsDiffer row other) := by
  let differ : Row → Row → Bool := fun row other =>
    key.agree row other && columns.any (textsDiffer row other)
  have narrower : ∀ row other, differ row other = true → key.agree row other = true :=
    fun _ _ holds => (Bool.and_eq_true _ _ ▸ holds).1
  have balanced : left.countP (fun row => right.any (differ row)) =
      right.countP fun other => left.any (differ · other) :=
    countP_partnered ((leftApart.pairsOnce readsLeft readsRight).narrowed narrower)
      ((rightApart.pairsOnce_swapped readsRight readsLeft).narrowed fun other row =>
        narrower row other)
  have onLeft : ∀ row ∈ left, ((right.find? (key.agree row)).any fun other =>
      columns.any (textsDiffer row other)) = right.any (differ row) :=
    fun row member => any_counterpart readsLeft readsRight rightApart member _
  have onRight : ∀ other ∈ right, ((left.find? (key.agree other)).any fun row =>
      columns.any (textsDiffer other row)) = left.any (differ · other) := by
    intro other member
    rw [any_counterpart readsRight readsLeft leftApart member, Bool.eq_iff_iff, List.any_eq_true,
      List.any_eq_true]
    refine exists_congr fun row => and_congr_right fun inside => ?_
    rw [key.agree_comm (readsRight other member) (readsLeft row inside),
      funext (textsDiffer_comm other row)]
  calc right.countP (fun row =>
        (left.find? (key.agree row)).any fun other => columns.any (textsDiffer row other))
      = right.countP (fun other => left.any (differ · other)) :=
        List.countP_congr fun other member => by rw [onRight other member]
    _ = left.countP (fun row => right.any (differ row)) := balanced.symm
    _ = _ := List.countP_congr fun row member => by rw [onLeft row member]

end Sides

/-! ### Both directions -/

/-- Rows without a key in common that can be compared one way can be compared the other way too:
the same pairs are matched. -/
theorem CompareKey.Compares.swapped {key : CompareKey} {columns : List String}
    {left right : List Row}
    (compares : key.Compares columns left right) (readsLeft : ∀ row ∈ left, key.reads row)
    (readsRight : ∀ row ∈ right, key.reads row) (rightApart : key.Separates right) :
    key.Compares columns right left := by
  intro other member row found
  have inside := List.mem_of_find?_eq_some found
  have agrees := key.agree_symm (readsRight other member) (readsLeft row inside)
    (List.find?_some found)
  have partner : right.find? (key.agree row) = some other :=
    (find?_partner (rightApart.pairsOnce_swapped readsRight readsLeft) inside).2 ⟨member, agrees⟩
  exact (compares row inside other partner).symm

/-- Sets with the same columns and without a key in common can be compared either way. -/
theorem ResultSet.fault_comparison_swapped {key : CompareKey} {left right : ResultSet}
    (sameNames : right.names = left.names) (rightApart : key.Separates right.rows)
    (fault : (left.comparison key right).fault = none) :
    (right.comparison key left).fault = none := by
  obtain ⟨readsLeft, readsRight, compares⟩ := (fault_comparison_iff_reads ..).1 fault
  refine (fault_comparison_iff_reads ..).2 ⟨readsRight, readsLeft, ?_⟩
  rw [sameNames]
  exact compares.swapped readsLeft readsRight rightApart

/-- A set chooses its key by its columns and the keys it names. -/
theorem ResultSet.matchingKey_congr {left right : ResultSet} (sameNames : right.names = left.names)
    (sameKeys : right.origin.compareKeys = left.origin.compareKeys) :
    right.matchingKey = left.matchingKey := by
  unfold matchingKey
  rw [sameNames, sameKeys]

/-- A comparison by a key that can be completed. -/
theorem diff_of_completed {old new : ResultSet} {key : CompareKey}
    (chosen : old.matchingKey = .ok key) (fault : (old.comparison key new).fault = none) :
    diff old new = ⟨old.withRows (applyEdits .old (old.comparison key new).edits
        (old.rows.map (Row.clear none))),
      new.withRows (applyEdits .new (old.comparison key new).edits (new.rows.map (Row.clear none))),
      .ok (.ofComparison (old.comparison key new))⟩ := by
  exact (diff_of_key chosen).trans
    (congrArg (DiffOutcome.mk _ _) (reportOf_eq_ok_iff.2 ⟨fault, rfl⟩))

/-- **A comparison read from the other side.** Where no two rows of a set share a key, two sets with
the same columns and keys can be compared either way: the same cells carry the same marks, with
additions and deletions exchanged, and so are the counts. -/
theorem diff_mirrored {left right : ResultSet} {key : CompareKey}
    (chosen : left.matchingKey = .ok key) (sameNames : right.names = left.names)
    (sameKeys : right.origin.compareKeys = left.origin.compareKeys) (distinct : left.names.Nodup)
    (leftApart : key.Separates left.rows) (rightApart : key.Separates right.rows)
    {report : DiffReport} (completed : (diff left right).report = .ok report)
    (compared : report.ok = true) :
    ∃ back, (diff right left).report = .ok back ∧ back.ok = true ∧
      back.inserted = report.deleted ∧ back.deleted = report.inserted ∧
      back.updated = report.updated ∧
      Mirrors (diff left right).old.rows (diff right left).new.rows ∧
      Mirrors (diff right left).old.rows (diff left right).new.rows := by
  have chosenBack := (ResultSet.matchingKey_congr sameNames sameKeys).trans chosen
  have distinctBack : right.names.Nodup := by
    rw [sameNames]
    exact distinct
  obtain ⟨used, sameKey, fault, rfl, outcome⟩ := diff_completed completed compared
  obtain rfl : used = key := Except.ok.inj (sameKey.symm.trans chosen)
  have faultBack := ResultSet.fault_comparison_swapped sameNames rightApart fault
  have outcomeBack := diff_of_completed chosenBack faultBack
  obtain ⟨readsLeft, readsRight, -⟩ := (fault_comparison_iff_reads ..).1 fault
  obtain ⟨deletions, updates, insertions⟩ := counts_comparison fault
  obtain ⟨deletionsBack, updatesBack, insertionsBack⟩ := counts_comparison faultBack
  refine ⟨_, congrArg DiffOutcome.report outcomeBack, rfl, ?_, ?_, ?_, ?_, ?_⟩
  · refine insertionsBack.trans (Eq.trans ?_ deletions.symm)
    refine List.countP_congr fun row member => ?_
    rw [any_agree_comm readsRight (readsLeft row member)]
  · refine deletionsBack.trans (Eq.trans ?_ insertions.symm)
    refine List.countP_congr fun row member => ?_
    rw [any_agree_comm readsLeft (readsRight row member)]
  · refine updatesBack.trans (Eq.trans ?_ updates.symm)
    rw [sameNames]
    exact countP_updated_swapped readsLeft readsRight leftApart rightApart left.names
  · rw [outcome, outcomeBack]
    refine (carries_old fault distinct).mirrors (carries_new faultBack distinctBack) ?_
    intro place row here column
    rw [sameNames]
    exact newMarks_mirrored readsLeft readsRight leftApart rightApart left.names here column
  · rw [outcome, outcomeBack]
    refine (carries_old faultBack distinctBack).mirrors (carries_new fault distinct) ?_
    intro place row here column
    rw [sameNames]
    exact newMarks_mirrored readsRight readsLeft rightApart leftApart left.names here column

/-- Two sets with a key of two columns: each has a row of its own, and of the
two they share one differs. -/
theorem diff_mirrored_of_shared_rows :
    let key : CompareKey := .composite .custom ["a", "b"]
    let left : ResultSet := .keyedBy key ["a", "b", "c"]
      [[("a", .int 1), ("b", .int 1), ("c", .text "x")], [("a", .int 1), ("b", .int 2)],
        [("a", .int 2), ("b", .null), ("c", .bool true)]]
    let right : ResultSet := .keyedBy key ["a", "b", "c"]
      [[("a", .int 2), ("c", .bool true)], [("a", .int 1), ("b", .int 1), ("c", .text "y")],
        [("a", .int 3), ("b", .int 3)]]
    let report : DiffReport := ⟨true, 1, 1, 1, "Inserted:1, Deleted:1, Updated:1"⟩
    left.matchingKey = .ok key ∧ right.names = left.names ∧
      right.origin.compareKeys = left.origin.compareKeys ∧ left.names.Nodup ∧
      key.Separates left.rows ∧ key.Separates right.rows ∧
      (diff left right).report = .ok report ∧ report.ok = true ∧
      ∃ back, (diff right left).report = .ok back ∧ back.ok = true ∧
        back.inserted = report.deleted ∧ back.deleted = report.inserted ∧
        back.updated = report.updated ∧
        Mirrors (diff left right).old.rows (diff right left).new.rows ∧
        Mirrors (diff right left).old.rows (diff left right).new.rows := by
  intro key left right report
  have chosen : left.matchingKey = .ok key := rfl
  have sameNames : right.names = left.names := rfl
  have sameKeys : right.origin.compareKeys = left.origin.compareKeys := rfl
  have distinct : left.names.Nodup := by decide
  have leftApart : key.Separates left.rows := by
    unfold CompareKey.Separates
    decide +kernel
  have rightApart : key.Separates right.rows := by
    unfold CompareKey.Separates
    decide +kernel
  have completed : (diff left right).report = .ok report := eq_ok_of_toOption (by decide +kernel)
  exact ⟨chosen, sameNames, sameKeys, distinct, leftApart, rightApart, completed, rfl,
    diff_mirrored chosen sameNames sameKeys distinct leftApart rightApart completed rfl⟩

end QueryDesk
