/-
**Sessions: named sets marked, compared and checked one step after another.**

* `MarkingStep` — a mark pushed on a cell, marks cleared from a row or a set, two
  sets compared, a set checked.
* `Workspace.step`, `Workspace.after` — what one step does, and what all of them do in order. A step
  that names a set that is not there does nothing; one that ends with a failure leaves the sets as
  it found or marked them up to there.
-/

import QueryDesk.ResultSet.Diff
import QueryDesk.ResultSet.Workspace
import QueryDesk.Rule.Validation

namespace QueryDesk

/-- A step that changes the marks of named sets. -/
inductive MarkingStep where
  /-- One more mark on a cell of a row. -/
  | push (name : String) (place : Nat) (column : String) (mark : Mark)
  /-- No more marks on a row, of one kind if one is given. -/
  | clearRow (name : String) (place : Nat) (kind : Option MarkKind)
  /-- No more marks on a set, of one kind if one is given. -/
  | clear (name : String) (kind : Option MarkKind)
  /-- Two sets compared, or a set with itself. -/
  | compare (old new : String)
  /-- A set checked. -/
  | check (name : String) (table : TableRule)
deriving Repr

namespace Workspace

/-- The workspace with the set of a name changed. -/
def update (workspace : Workspace) (name : String) (change : ResultSet → ResultSet) : Workspace :=
  match workspace.set? name with
  | none => workspace
  | some set => workspace.replace name (change set)

/-- The workspace with the sets of two names compared. -/
def compare (workspace : Workspace) (old new : String) : Workspace :=
  if old = new then workspace.update old fun set => (diffWithItself set).1
  else
    match workspace.set? old, workspace.set? new with
    | some oldSet, some newSet =>
      let outcome := diff oldSet newSet
      (workspace.replace old outcome.old).replace new outcome.new
    | _, _ => workspace

/-- The workspace after a step. -/
def step (workspace : Workspace) : MarkingStep → Workspace
  | .push name place column mark =>
    workspace.update name fun set => set.withRows (set.rows.modify place (Row.push column mark))
  | .clearRow name place kind =>
    workspace.update name fun set => set.withRows (set.rows.modify place (Row.clear kind))
  | .clear name kind => workspace.update name (ResultSet.clear kind)
  | .compare old new => workspace.compare old new
  | .check name table => workspace.update name fun set => (set.validate table).1

/-- The workspace after steps. -/
def after (workspace : Workspace) (steps : List MarkingStep) : Workspace :=
  steps.foldl step workspace

end Workspace

end QueryDesk
