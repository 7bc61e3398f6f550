/-
**Sets of code points given by their edges.**

* `Edges.holds` — membership: the first edge opens a range, the next closes it, and so on, so a code
  point belongs to the set exactly when an odd number of edges are at or below it.
-/

namespace QueryDesk.Text.Edges

/-- Whether a code point lies in the set whose edges are given in rising order. -/
def holds : List Nat → Nat → Bool
  | [], _ => false
  | edge :: rest, code => if code < edge then false else !holds rest code

@[simp] theorem holds_nil (code : Nat) : holds [] code = false := rfl

end QueryDesk.Text.Edges
