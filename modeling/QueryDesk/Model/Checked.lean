/-
**Reading data of a fixed shape, with all its troubles at once.**

* `Checked` — what was read, or every issue that was found; the parts of a record are read
  independently and their issues collected (`Checked.seq`).
* `Checked.under` — the reading of a part, its issues placed under the part's name.
* `map_eq_good_iff`, `seq_eq_good_iff`, `under_eq_good_iff`, `orElseFail_eq_ok_iff` — when a reading
  put together from others succeeds; `issues_map`, `issues_seq`, `issues_under` — the issues it has.
-/

import QueryDesk.Failure
import QueryDesk.Value.Basic

namespace QueryDesk

/-- A reading of data: what was read, or what is wrong with the data. -/
inductive Checked (α : Type) where
  | good (result : α)
  | bad (issues : List Issue)
deriving Repr

namespace Checked

/-- The issues of a reading. -/
def issues {α : Type} : Checked α → List Issue
  | .good _ => []
  | .bad found => found

/-- What was read, if nothing is wrong. -/
def result? {α : Type} : Checked α → Option α
  | .good result => some result
  | .bad _ => none

/-- A change of what was read. -/
def map {α β : Type} (change : α → β) : Checked α → Checked β
  | .good result => .good (change result)
  | .bad found => .bad found

/-- Two independent readings: the issues of both are collected. -/
def seq {α β : Type} (first : Checked (α → β)) (second : Unit → Checked α) : Checked β :=
  match first, second () with
  | .good change, .good result => .good (change result)
  | .good _, .bad found => .bad found
  | .bad found, .good _ => .bad found
  | .bad found, .bad more => .bad (found ++ more)

instance : Applicative Checked where
  pure := .good
  map := map
  seq := seq

/-- The reading of a part, with its issues placed under the part's name. -/
def under {α : Type} (part : String) : Checked α → Checked α
  | .good result => .good result
  | .bad found => .bad (found.map (Issue.under part))

/-- A reading that failed with one issue. -/
def refuse {α : Type} (kind : IssueKind) : Checked α := .bad [Issue.here kind]

/-- A further condition on what was read. -/
def require {α : Type} (condition : α → Bool) (kind : IssueKind) : Checked α → Checked α
  | .good result => if condition result then .good result else refuse kind
  | .bad found => .bad found

/-- Reads the elements of a list one by one, the first under the given number. -/
def eachFrom {α : Type} (read : Value → Checked α) : Nat → List Value → Checked (List α)
  | _, [] => .good []
  | place, item :: rest =>
    seq (map List.cons (under (toString place) (read item))) fun _ => eachFrom read (place + 1) rest

/-- What was read, or the failure that is made of the issues. -/
def orElseFail {α : Type} (failure : List Issue → Failure) : Checked α → Except Failure α
  | .good result => .ok result
  | .bad found => .error (failure found)

/-- What was read, or the failure that names the shape the data should have. -/
def orFail {α : Type} (shape : String) (checked : Checked α) : Except Failure α :=
  checked.orElseFail (.invalidData shape)

/-! ### Readings put together -/

section Parts

variable {α β : Type}

theorem fmap_eq (change : α → β) (checked : Checked α) : change <$> checked = map change checked :=
  rfl

theorem ap_eq (first : Checked (α → β)) (second : Checked α) :
    first <*> second = seq first fun _ => second :=
  rfl

/-- What becomes of a result is good exactly when the result is. -/
@[simp] theorem map_eq_good_iff {change : α → β} {checked : Checked α} {result : β} :
    map change checked = .good result ↔ ∃ found, checked = .good found ∧ change found = result := by
  cases checked <;> simp [map]

/-- Two checks are good together exactly when both are. -/
@[simp] theorem seq_eq_good_iff {first : Checked (α → β)} {second : Unit → Checked α} {result : β} :
    seq first second = .good result ↔
      ∃ change found, first = .good change ∧ second () = .good found ∧ change found = result := by
  unfold seq
  cases first <;> cases second () <;> simp

/-- A check does not depend on the place of the data. -/
@[simp] theorem under_eq_good_iff {part : String} {checked : Checked α} {result : α} :
    under part checked = .good result ↔ checked = .good result := by
  cases checked <;> simp [under]

/-- Only a good result does not fail. -/
@[simp] theorem orElseFail_eq_ok_iff {failure : List Issue → Failure} {checked : Checked α}
    {result : α} :
    checked.orElseFail failure = .ok result ↔ checked = .good result := by
  cases checked <;> simp [orElseFail]

@[simp] theorem orFail_eq_ok_iff {shape : String} {checked : Checked α} {result : α} :
    checked.orFail shape = .ok result ↔ checked = .good result :=
  orElseFail_eq_ok_iff

@[simp] theorem refuse_ne_good (kind : IssueKind) (result : α) : refuse kind ≠ .good result := nofun

@[simp] theorem issues_refuse (kind : IssueKind) :
    (refuse kind : Checked α).issues = [Issue.here kind] := rfl

/-- What becomes of a result changes none of the trouble with it. -/
@[simp] theorem issues_map (change : α → β) (checked : Checked α) :
    (map change checked).issues = checked.issues := by
  cases checked <;> rfl

/-- The trouble of two checks: that of the first, and then that of the second. -/
@[simp] theorem issues_seq (first : Checked (α → β)) (second : Unit → Checked α) :
    (seq first second).issues = first.issues ++ (second ()).issues := by
  unfold seq
  cases first <;> cases second () <;> simp [issues]

/-- The trouble with a part stands under the part. -/
@[simp] theorem issues_under (part : String) (checked : Checked α) :
    (under part checked).issues = checked.issues.map (Issue.under part) := by
  cases checked <;> rfl

end Parts

end Checked

end QueryDesk
