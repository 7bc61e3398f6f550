/-
**What the runs that mark a set read of it.**

* `ResultSet.fresh` — a set built anew from its columns, the values of its rows and its compare
  keys; `ResultSet.fresh_eq_iff` says when two sets are the same in this.
* `fresh_diff`, `fresh_diffWithItself`, `fresh_validate`, `fresh_modify`, `fresh_clear` — comparing
  sets, checking a set, and pushing and clearing marks leave it the same.
* `diff_congr` — a comparison reads nothing else: sets that are the same in this have the same
  report, and unless it was refused the same rows with the same marks.
-/

import QueryDesk.Proofs.Comparison.Outcome
import QueryDesk.Proofs.RuleCheck.OwnMarks

namespace QueryDesk

namespace ResultSet

/-- A set built anew from its columns, the values of its rows and its compare keys. -/
def fresh (set : ResultSet) : ResultSet :=
  ⟨set.keys, set.rows.map (Row.clear none),
    { Provenance.unknown with compareKeys := set.origin.compareKeys }, none, none⟩

theorem map_clear_eq_iff (rows others : List Row) :
    rows.map (Row.clear none) = others.map (Row.clear none) ↔
      rows.map Row.values = others.map Row.values := by
  constructor
  · intro same
    have values := congrArg (List.map Row.values) same
    rw [List.map_map, List.map_map] at values
    exact values
  · intro same
    have built := congrArg (List.map fun values => (⟨values, .empty⟩ : Row)) same
    rw [List.map_map, List.map_map] at built
    exact built

/-- Two sets are the same anew exactly when their columns, their values and
their keys for matching are. -/
theorem fresh_eq_iff (set other : ResultSet) :
    set.fresh = other.fresh ↔ set.keys = other.keys ∧
      set.rows.map Row.values = other.rows.map Row.values ∧
      set.origin.compareKeys = other.origin.compareKeys := by
  rw [← map_clear_eq_iff]
  simp [fresh]

theorem names_of_fresh {set other : ResultSet} (same : set.fresh = other.fresh) :
    set.names = other.names :=
  congrArg (List.map ResultKey.name) ((fresh_eq_iff set other).1 same).1

theorem fresh_fresh (set : ResultSet) : set.fresh.fresh = set.fresh := by
  rw [fresh_eq_iff]
  refine ⟨rfl, ?_, rfl⟩
  show (set.rows.map (Row.clear none)).map Row.values = _
  rw [List.map_map]
  rfl

/-! ### What leaves the set the same -/

theorem fresh_withRows {set : ResultSet} {rows : List Row}
    (values : rows.map Row.values = set.rows.map Row.values) :
    (set.withRows rows).fresh = set.fresh :=
  (fresh_eq_iff _ _).2 ⟨rfl, values, rfl⟩

theorem fresh_clear (set : ResultSet) (kind : Option MarkKind) :
    (set.clear kind).fresh = set.fresh := by
  show (set.withRows (set.rows.map (Row.clear kind))).fresh = set.fresh
  refine fresh_withRows ?_
  rw [List.map_map]
  rfl

/-- One row changed in its marks only. -/
theorem fresh_modify (set : ResultSet) (place : Nat) {change : Row → Row}
    (values : ∀ row, (change row).values = row.values) :
    (set.withRows (set.rows.modify place change)).fresh = set.fresh := by
  refine fresh_withRows ?_
  ext1 other
  rw [List.getElem?_map, List.getElem?_map, List.getElem?_modify]
  by_cases here : place = other
  · subst here
    cases set.rows[place]? <;> simp [values]
  · simp [here]

/-- Marks leave the values of the rows as they are. -/
theorem map_values_applyEdits (side : Side) (edits : List Edit) (rows : List Row) :
    (applyEdits side edits rows).map Row.values = rows.map Row.values := by
  ext1 place
  rw [List.getElem?_map, List.getElem?_map, getElem?_applyEdits, Option.map_map]
  congr 1
  funext row
  exact row.values_pushEach _

theorem map_values_clear (rows : List Row) :
    (rows.map (Row.clear none)).map Row.values = rows.map Row.values := by
  rw [List.map_map]
  rfl

/-- A comparison leaves both sets as they are anew. -/
theorem fresh_diff (old new : ResultSet) :
    (diff old new).old.fresh = old.fresh ∧ (diff old new).new.fresh = new.fresh := by
  have marked : ∀ (set : ResultSet) (side : Side) (edits : List Edit),
      (set.withRows (applyEdits side edits (set.rows.map (Row.clear none)))).fresh = set.fresh := by
    intro set side edits
    exact fresh_withRows ((map_values_applyEdits side edits _).trans (map_values_clear set.rows))
  unfold diff
  cases old.matchingKey with
  | error message => exact ⟨rfl, rfl⟩
  | ok key => exact ⟨marked old .old _, marked new .new _⟩

/-- A comparison of a set with itself leaves it as it is anew. -/
theorem fresh_diffWithItself (set : ResultSet) : (diffWithItself set).1.fresh = set.fresh := by
  unfold diffWithItself
  cases set.matchingKey with
  | error message => rfl
  | ok key =>
    exact @fresh_withRows set _ ((map_values_applyEdits .old _ _).trans (map_values_clear set.rows))

theorem map_values_of_sameMarks {kinds : MarkKind → Bool} {rows others : List Row}
    (same : List.Forall₂ (Row.SameMarks kinds) rows others) :
    rows.map Row.values = others.map Row.values := by
  rw [← List.forall₂_eq_eq_eq, List.forall₂_map_left_iff, List.forall₂_map_right_iff]
  exact same.imp fun _ _ here => here.1

/-- A check leaves a set as it is anew. -/
theorem fresh_validate (set : ResultSet) (table : TableRule) :
    (set.validate table).1.fresh = set.fresh := by
  obtain ⟨keys, rows, origin⟩ := set.validate_keeps table
  rw [fresh_eq_iff]
  refine ⟨keys, (map_values_of_sameMarks rows).symm, ?_⟩
  rw [origin]

/-! ### What a comparison reads -/

/-- Sets that are the same anew are matched by the same key. -/
theorem matchingKey_of_fresh {set other : ResultSet} (same : set.fresh = other.fresh) :
    set.matchingKey = other.matchingKey := by
  obtain ⟨-, -, compareKeys⟩ := (fresh_eq_iff set other).1 same
  unfold matchingKey
  rw [names_of_fresh same, compareKeys]

/-- Sets that are the same anew are compared alike. -/
theorem comparison_of_fresh {old new oldAgain newAgain : ResultSet}
    (sameOld : old.fresh = oldAgain.fresh)
    (sameNew : new.fresh = newAgain.fresh) (key : CompareKey) :
    old.comparison key new = oldAgain.comparison key newAgain := by
  obtain ⟨-, oldValues, -⟩ := (fresh_eq_iff old oldAgain).1 sameOld
  obtain ⟨-, newValues, -⟩ := (fresh_eq_iff new newAgain).1 sameNew
  unfold comparison
  rw [names_of_fresh sameOld, (map_clear_eq_iff _ _).2 oldValues,
    (map_clear_eq_iff _ _).2 newValues]

end ResultSet

open ResultSet

/-- **A comparison reads no marks**: sets with the same columns, values and compare keys have the
same report, and unless it was refused their rows end up with the same marks. -/
theorem diff_congr {old new oldAgain newAgain : ResultSet} (sameOld : old.fresh = oldAgain.fresh)
    (sameNew : new.fresh = newAgain.fresh) :
    (diff old new).report = (diff oldAgain newAgain).report ∧
      ((∃ key, old.matchingKey = .ok key) →
        (diff old new).old.rows = (diff oldAgain newAgain).old.rows ∧
        (diff old new).new.rows = (diff oldAgain newAgain).new.rows) := by
  have chosen := matchingKey_of_fresh sameOld
  cases found : old.matchingKey with
  | error message =>
    have foundAgain := chosen.symm.trans found
    unfold diff
    rw [found, foundAgain]
    exact ⟨rfl, nofun⟩
  | ok key =>
    have foundAgain := chosen.symm.trans found
    have compared := comparison_of_fresh sameOld sameNew key
    have oldRows := (map_clear_eq_iff _ _).2 ((fresh_eq_iff _ _).1 sameOld).2.1
    have newRows := (map_clear_eq_iff _ _).2 ((fresh_eq_iff _ _).1 sameNew).2.1
    rw [diff_of_key found, diff_of_key foundAgain, compared, oldRows, newRows]
    exact ⟨rfl, fun _ => ⟨rfl, rfl⟩⟩

end QueryDesk
