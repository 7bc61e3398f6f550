/-
**Several marks pushed on one row.**

* `Row.pushEach` — marks pushed one after another, each on a column of its own; the values of the
  row stay (`Row.values_pushEach`).
* `Row.of_pushEach` — a column holds what it held before and behind it the marks pushed on it,
  in the order they were pushed.
-/

import QueryDesk.ResultSet.Basic

namespace QueryDesk.Row

/-- The row with marks pushed one after another, each on its column. -/
def pushEach (row : Row) (pushed : List (String × Mark)) : Row :=
  pushed.foldl (fun marked entry => marked.push entry.1 entry.2) row

/-- The marks that are pushed on one column. -/
def pushedOn (column : String) (pushed : List (String × Mark)) : List Mark :=
  (pushed.filter fun entry => entry.1 == column).map Prod.snd

@[simp] theorem pushEach_nil (row : Row) : row.pushEach [] = row := rfl

@[simp] theorem pushEach_cons (row : Row) (entry : String × Mark) (rest : List (String × Mark)) :
    row.pushEach (entry :: rest) = (row.push entry.1 entry.2).pushEach rest := rfl

theorem pushedOn_cons (column : String) (entry : String × Mark) (rest : List (String × Mark)) :
    pushedOn column (entry :: rest) =
      (if column = entry.1 then [entry.2] else []) ++ pushedOn column rest := by
  unfold pushedOn
  by_cases same : column = entry.1
  · simp [same]
  · have differs : (entry.1 == column) = false := beq_eq_false_iff_ne.2 fun equal => same equal.symm
    simp [same, differs]

@[simp] theorem values_push (row : Row) (column : String) (mark : Mark) :
    (row.push column mark).values = row.values := rfl

@[simp] theorem values_pushEach (row : Row) (pushed : List (String × Mark)) :
    (row.pushEach pushed).values = row.values := by
  induction pushed generalizing row with
  | nil => rfl
  | cons entry rest ih => rw [pushEach_cons, ih, values_push]

/-- Pushed marks stand behind what their columns held before, in the order they were pushed. -/
theorem of_pushEach (row : Row) (pushed : List (String × Mark)) (column : String) :
    (row.pushEach pushed).marks.of column none =
      row.marks.of column none ++ pushedOn column pushed := by
  induction pushed generalizing row with
  | nil => simp [pushedOn]
  | cons entry rest ih =>
    have step : (row.push entry.1 entry.2).marks.of column none =
        row.marks.of column none ++ if column = entry.1 then [entry.2] else [] := by
      rw [push, Marks.of_push]
      rfl
    rw [pushEach_cons, ih, step, pushedOn_cons, List.append_assoc]

end QueryDesk.Row
