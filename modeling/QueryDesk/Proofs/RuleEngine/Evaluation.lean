/-
**What the evaluation of conditions comes to.**

A group is evaluated child by child, and the child that settles it is the last one looked at.
So the outcome of a tree is settled by the leaves that evaluation comes to
(`Condition.Reaches`), and by no others.

* `Condition.holds_eq_error_iff` — an evaluation fails exactly when it comes to a leaf that fails,
  with the failure of this leaf.
* `Engine.verdictsOf_eq_error_iff`, `Engine.verdictsOf_eq_ok_iff` — a run of rules fails as the
  first rule does that fails, and is completed when every rule has a verdict.
-/

import QueryDesk.Rule.Engine
import QueryDesk.Proofs.Search

namespace QueryDesk

namespace Condition

section Reach

variable (operators : OperatorTable) (facts : Facts)

/-- The leaves that the evaluation of a condition comes to: in a group of all those behind children
that hold, in a group of any those behind children that do not. -/
inductive Reaches : Condition → Leaf → Prop
  | leaf (comparison : Leaf) : Reaches (.leaf comparison) comparison
  | all {children before behind : List Condition} {child : Condition} {comparison : Leaf}
      (parts : children = before ++ child :: behind)
      (held : ∀ earlier ∈ before, earlier.holds operators facts = .ok true)
      (inside : Reaches child comparison) : Reaches (.group .all children) comparison
  | any {children before behind : List Condition} {child : Condition} {comparison : Leaf}
      (parts : children = before ++ child :: behind)
      (failed : ∀ earlier ∈ before, earlier.holds operators facts = .ok false)
      (inside : Reaches child comparison) : Reaches (.group .any children) comparison

end Reach

variable {operators : OperatorTable} {facts : Facts}

/-! ### Groups -/

theorem allHold_eq_error_iff {failure : Failure} (children : List Condition) :
    allHold operators facts children = .error failure ↔
      StopsAt (fun child => child.holds operators facts = .ok true)
        (fun child => child.holds operators facts = .error failure) children := by
  induction children with
  | nil => simp [allHold]
  | cons first rest ih =>
    rw [allHold, stopsAt_cons, ← ih]
    cases first.holds operators facts with
    | error found => simp [bind, Except.bind]
    | ok held => cases held <;> simp [bind, Except.bind, pure, Except.pure]

theorem anyHolds_eq_error_iff {failure : Failure} (children : List Condition) :
    anyHolds operators facts children = .error failure ↔
      StopsAt (fun child => child.holds operators facts = .ok false)
        (fun child => child.holds operators facts = .error failure) children := by
  induction children with
  | nil => simp [anyHolds]
  | cons first rest ih =>
    rw [anyHolds, stopsAt_cons, ← ih]
    cases first.holds operators facts with
    | error found => simp [bind, Except.bind]
    | ok held => cases held <;> simp [bind, Except.bind, pure, Except.pure]

/-! ### Trees -/

section Failures

variable (operators facts) (failure : Failure)

mutual

/-- **An evaluation fails exactly when it comes to a leaf that fails.** -/
theorem holds_eq_error_iff : ∀ condition : Condition,
    condition.holds operators facts = .error failure ↔
      ∃ comparison, Reaches operators facts condition comparison ∧
        comparison.holds operators facts = .error failure
  | .leaf comparison => by
    rw [holds]
    constructor
    · exact fun failed => ⟨comparison, .leaf comparison, failed⟩
    · rintro ⟨_, ⟨⟩, failed⟩
      exact failed
  | .group .all children => by
    rw [holds, allHold_eq_error_iff]
    constructor
    · rintro ⟨before, child, behind, parts, held, failed⟩
      obtain ⟨comparison, inside, found⟩ :=
        (each_eq_error_iff children child (by simp [parts])).1 failed
      exact ⟨comparison, .all parts held inside, found⟩
    · rintro ⟨comparison, reached, found⟩
      cases reached with
      | all parts held inside =>
        exact ⟨_, _, _, parts, held,
          (each_eq_error_iff children _ (by simp [parts])).2 ⟨comparison, inside, found⟩⟩
  | .group .any children => by
    rw [holds, anyHolds_eq_error_iff]
    constructor
    · rintro ⟨before, child, behind, parts, failed, broken⟩
      obtain ⟨comparison, inside, found⟩ :=
        (each_eq_error_iff children child (by simp [parts])).1 broken
      exact ⟨comparison, .any parts failed inside, found⟩
    · rintro ⟨comparison, reached, found⟩
      cases reached with
      | any parts failed inside =>
        exact ⟨_, _, _, parts, failed,
          (each_eq_error_iff children _ (by simp [parts])).2 ⟨comparison, inside, found⟩⟩

theorem each_eq_error_iff : ∀ children : List Condition, ∀ child ∈ children,
    (child.holds operators facts = .error failure ↔
      ∃ comparison, Reaches operators facts child comparison ∧
        comparison.holds operators facts = .error failure)
  | [] => fun _ inside => absurd inside List.not_mem_nil
  | first :: rest =>
    List.forall_mem_cons.2 ⟨holds_eq_error_iff first, each_eq_error_iff rest⟩

end

end Failures

theorem mem_leavesOf {children : List Condition} {child : Condition} {comparison : Leaf}
    (inside : child ∈ children) (found : comparison ∈ child.leaves) :
    comparison ∈ leavesOf children := by
  induction children with
  | nil => exact absurd inside List.not_mem_nil
  | cons first rest ih =>
    rw [leavesOf, List.mem_append]
    rcases List.mem_cons.1 inside with rfl | later
    · exact .inl found
    · exact .inr (ih later)

/-- An evaluation comes to leaves of the condition only. -/
theorem Reaches.mem_leaves {condition : Condition} {comparison : Leaf}
    (reached : Reaches operators facts condition comparison) : comparison ∈ condition.leaves := by
  induction reached with
  | leaf comparison => exact List.mem_singleton_self comparison
  | all parts _ _ ih => exact mem_leavesOf (by simp [parts]) ih
  | any parts _ _ ih => exact mem_leavesOf (by simp [parts]) ih

end Condition

/-! ### Runs -/

namespace EngineRule

/-- A rule has a verdict on facts. -/
def Decides (operators : OperatorTable) (facts : Facts) (rule : EngineRule) : Prop :=
  ∃ verdict, rule.conditions.holds operators facts = .ok verdict

/-- Whether the conditions of a rule hold; those of a rule without a verdict do not. -/
def isMet (operators : OperatorTable) (facts : Facts) (rule : EngineRule) : Bool :=
  (rule.conditions.holds operators facts).toOption.getD false

theorem Decides.holds_eq {operators : OperatorTable} {facts : Facts} {rule : EngineRule}
    (decides : rule.Decides operators facts) :
    rule.conditions.holds operators facts = .ok (rule.isMet operators facts) := by
  obtain ⟨verdict, found⟩ := decides
  rw [isMet, found]
  rfl

end EngineRule

namespace Engine

variable (engine : Engine) (facts : Facts)

/-- Rules have verdicts one after another, and fail as the first one does that fails. -/
theorem verdictsOf_eq_error_iff {failure : Failure} (rules : List EngineRule) :
    engine.verdictsOf facts rules = .error failure ↔
      StopsAt (EngineRule.Decides engine.operators facts)
        (fun rule => rule.conditions.holds engine.operators facts = .error failure) rules := by
  induction rules with
  | nil => simp [verdictsOf]
  | cons first rest ih =>
    rw [verdictsOf, stopsAt_cons, ← ih, verdictOf, EngineRule.Decides]
    cases first.conditions.holds engine.operators facts with
    | error found => simp [bind, Except.bind, Except.map]
    | ok verdict =>
      cases engine.verdictsOf facts rest <;>
        simp [bind, Except.bind, Except.map, pure, Except.pure]

theorem verdictsOf_eq_ok_iff {verdicts : List EngineVerdict} (rules : List EngineRule) :
    engine.verdictsOf facts rules = .ok verdicts ↔
      (∀ rule ∈ rules, rule.Decides engine.operators facts) ∧
        verdicts = rules.map fun rule => ⟨rule, rule.isMet engine.operators facts⟩ := by
  induction rules generalizing verdicts with
  | nil => simp [verdictsOf, eq_comm]
  | cons first rest ih =>
    rw [verdictsOf, verdictOf, List.forall_mem_cons, List.map_cons]
    cases found : first.conditions.holds engine.operators facts with
    | error failure =>
      have undecided : ¬ first.Decides engine.operators facts := by simp [EngineRule.Decides, found]
      simp [bind, Except.bind, Except.map, undecided]
    | ok verdict =>
      have decides : first.Decides engine.operators facts := ⟨verdict, found⟩
      have met : first.isMet engine.operators facts = verdict := by
        rw [EngineRule.isMet, found]
        rfl
      cases others : engine.verdictsOf facts rest with
      | error failure =>
        have undecided : ¬ ∀ rule ∈ rest, rule.Decides engine.operators facts := fun all => by
          have completed := ih.2 ⟨all, rfl⟩
          rw [others] at completed
          cases completed
        simp [bind, Except.bind, Except.map, undecided]
      | ok found =>
        obtain ⟨all, rfl⟩ := ih.1 others
        rw [and_iff_right ⟨decides, all⟩, met]
        simp [bind, Except.bind, Except.map, pure, Except.pure, eq_comm]

end Engine

end QueryDesk
