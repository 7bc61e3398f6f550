/-
**De Morgan's laws for conditions.**

A tree is negated by exchanging groups of all and groups of any, and every operator with its
partner: the operator whose test holds exactly where its own does not. A test that fails has no
verdict to negate, so a partner has to fail alike.

* `Operator.partner?` — the partner of an operator; `Operator.builtIn_complementary` — the built-in
  tests of partners are each other's negation for every fact, absent or not, and every value.
* `Condition.negated`, `ConditionTree.negated` — the negation of a condition and of a tree.
* `Condition.holds_negated` — **the verdict of the negation is the negated verdict**, in
  every table of operators whose partners are complementary: each step of a group of all is
  the same step of a group of any.
-/

import QueryDesk.Proofs.Search
import QueryDesk.Rule.Engine

namespace QueryDesk

/-! ### Negated outcomes -/

/-- A verdict that is negated twice. -/
theorem map_not_map_not {ε : Type} (outcome : Except ε Bool) :
    (outcome.map not).map not = outcome := by
  cases outcome with
  | error failure => rfl
  | ok held => exact congrArg Except.ok (Bool.not_not held)

theorem map_not_mapError {ε δ : Type} (change : ε → δ) (outcome : Except ε Bool) :
    (outcome.map not).mapError change = (outcome.mapError change).map not := by
  cases outcome <;> rfl

/-! ### Partners -/

/-- One test is the negation of another: it fails alike, and else holds where the other does not. -/
def OperatorTest.Negates (other test : OperatorTest) : Prop :=
  ∀ fact value, other fact value = (test fact value).map not

theorem OperatorTest.Negates.symm {other test : OperatorTest} (negates : other.Negates test) :
    test.Negates other := fun fact value => by
  rw [negates, map_not_map_not]

namespace Operator

/-- The operators that negate each other. -/
def partners : List (String × String) := [
  ("equal", "notEqual"),
  ("in", "notIn"),
  ("contains", "doesNotContain"),
  ("isNull", "isNotNull"),
  ("isNil", "isNotNil")]

/-- The partner of an operator, in whichever direction it is listed. -/
def partner? (name : String) : Option String :=
  (partners ++ partners.map Prod.swap).lookup name

/-- A table in which the tests of partners are there and negate each other. -/
def Complementary (operators : OperatorTable) : Prop :=
  ∀ name partner, partner? name = some partner →
    ∃ test other, operators.lookup name = some test ∧ operators.lookup partner = some other ∧
      other.Negates test

theorem notEqual_negates : notEqual.holds.Negates equal.holds :=
  fun _ _ => map_not_mapError _ _

theorem isNotIn_negates : isNotIn.holds.Negates isIn.holds :=
  fun _ _ => map_not_mapError _ _

theorem doesNotContain_negates : doesNotContain.holds.Negates contains.holds :=
  fun _ _ => map_not_mapError _ _

theorem isNotNull_negates : isNotNull.holds.Negates isNull.holds := fun _ _ => rfl

theorem isNotNil_negates : isNotNil.holds.Negates isNil.holds := fun _ _ => rfl

/-- The built-in tests of two names that are listed as partners. -/
theorem builtIn_of_partners : ∀ pair ∈ partners, ∃ test other,
    builtIn.lookup pair.1 = some test ∧ builtIn.lookup pair.2 = some other ∧
      other.Negates test := by
  simp only [partners, List.forall_mem_cons]
  exact ⟨⟨_, _, rfl, rfl, notEqual_negates⟩, ⟨_, _, rfl, rfl, isNotIn_negates⟩,
    ⟨_, _, rfl, rfl, doesNotContain_negates⟩, ⟨_, _, rfl, rfl, isNotNull_negates⟩,
    ⟨_, _, rfl, rfl, isNotNil_negates⟩, List.forall_mem_nil _⟩

/-- **The built-in tests of partners negate each other.** -/
theorem builtIn_complementary : Complementary builtIn := by
  intro name partner found
  rcases List.mem_append.1 (mem_of_lookup found) with listed | swapped
  · exact builtIn_of_partners _ listed
  · obtain ⟨pair, listed, same⟩ := List.mem_map.1 swapped
    obtain ⟨test, other, first, second, negates⟩ := builtIn_of_partners pair listed
    obtain ⟨rfl, rfl⟩ := Prod.mk.inj same
    exact ⟨other, test, second, first, negates.symm⟩

end Operator

/-! ### Negated conditions -/

/-- The other sort of group. -/
def Connective.dual : Connective → Connective
  | .all => .any
  | .any => .all

namespace Leaf

/-- The comparison with the partner of its operator; one without a partner stays as it is. -/
def negated (leaf : Leaf) : Leaf :=
  { leaf with operator := (Operator.partner? leaf.operator).getD leaf.operator }

/-- **A comparison and its negation.** Both compare the same fact with the same value. -/
theorem holds_negated {operators : OperatorTable} (complementary : Operator.Complementary operators)
    (facts : Facts) {leaf : Leaf} (partnered : (Operator.partner? leaf.operator).isSome) :
    leaf.negated.holds operators facts = (leaf.holds operators facts).map not := by
  obtain ⟨partner, found⟩ := Option.isSome_iff_exists.1 partnered
  obtain ⟨test, other, first, second, negates⟩ := complementary _ _ found
  have exchanged : leaf.negated.operator = partner := by
    rw [negated, found]
    rfl
  have compared : leaf.negated.comparand facts = leaf.comparand facts := rfl
  have looked : facts.lookup leaf.negated.fact = facts.lookup leaf.fact := rfl
  unfold holds
  rw [exchanged, first, second, looked, compared]
  exact negates _ _

end Leaf

namespace Condition

mutual

/-- The negation of a condition. -/
def negated : Condition → Condition
  | .leaf comparison => .leaf comparison.negated
  | .group connective children => .group connective.dual (negatedAll children)

/-- The negations of several conditions. -/
def negatedAll : List Condition → List Condition
  | [] => []
  | child :: rest => negated child :: negatedAll rest

end

section Verdicts

variable {operators : OperatorTable} (facts : Facts)

mutual

/-- **The negation of a condition holds where the condition does not.** -/
theorem holds_negated (complementary : Operator.Complementary operators) :
    ∀ condition : Condition,
    (∀ leaf ∈ condition.leaves, (Operator.partner? leaf.operator).isSome) →
      condition.negated.holds operators facts = (condition.holds operators facts).map not
  | .leaf comparison, partnered => by
    rw [negated, holds, holds]
    exact comparison.holds_negated complementary facts
      (partnered comparison (List.mem_singleton_self comparison))
  | .group .all children, partnered => by
    rw [negated, Connective.dual, holds, holds]
    exact anyHolds_negatedAll complementary children partnered
  | .group .any children, partnered => by
    rw [negated, Connective.dual, holds, holds]
    exact allHold_negatedAll complementary children partnered

/-- Some negation holds where not all conditions do: both stop at the first
condition that does not. -/
theorem anyHolds_negatedAll (complementary : Operator.Complementary operators) :
    ∀ children : List Condition,
    (∀ leaf ∈ leavesOf children, (Operator.partner? leaf.operator).isSome) →
      anyHolds operators facts (negatedAll children) = (allHold operators facts children).map not
  | [], _ => by
    rw [negatedAll, anyHolds, allHold]
    rfl
  | child :: rest, partnered => by
    rw [leavesOf] at partnered
    obtain ⟨here, others⟩ := List.forall_mem_append.1 partnered
    rw [negatedAll, anyHolds, allHold, holds_negated complementary child here,
      anyHolds_negatedAll complementary rest others]
    cases child.holds operators facts with
    | error failure => rfl
    | ok held => cases held <;> rfl

/-- All negations hold where no condition does: both stop at the first condition that does. -/
theorem allHold_negatedAll (complementary : Operator.Complementary operators) :
    ∀ children : List Condition,
    (∀ leaf ∈ leavesOf children, (Operator.partner? leaf.operator).isSome) →
      allHold operators facts (negatedAll children) = (anyHolds operators facts children).map not
  | [], _ => by
    rw [negatedAll, allHold, anyHolds]
    rfl
  | child :: rest, partnered => by
    rw [leavesOf] at partnered
    obtain ⟨here, others⟩ := List.forall_mem_append.1 partnered
    rw [negatedAll, allHold, anyHolds, holds_negated complementary child here,
      allHold_negatedAll complementary rest others]
    cases child.holds operators facts with
    | error failure => rfl
    | ok held => cases held <;> rfl

end

end Verdicts

end Condition

namespace ConditionTree

/-- The negation of a tree. -/
def negated (tree : ConditionTree) : ConditionTree :=
  ⟨tree.connective.dual, Condition.negatedAll tree.children⟩

/-- **De Morgan's laws.** For all facts, the built-in operators give the negation of a tree the
negated verdict of the tree, and the same failure when they fail: the fact that is looked up may be
absent or nothing, the value may name a fact, and groups may be empty. -/
theorem holds_negated_of_partnered (tree : ConditionTree)
    (partnered : ∀ name ∈ tree.operators, (Operator.partner? name).isSome) (facts : Facts) :
    tree.negated.holds Operator.builtIn facts = (tree.holds Operator.builtIn facts).map not :=
  Condition.holds_negated facts Operator.builtIn_complementary tree.toCondition
    (List.forall_mem_map.1 partnered)

/-- An absent fact, a fact compared with another one, and groups that are empty. -/
theorem holds_negated_of_absent_fact :
    let tree : ConditionTree := ⟨.any, [
      .leaf ⟨"size", "equal", .record [("fact", .text "limit")]⟩,
      .group .any [],
      .group .all [.leaf ⟨"color", "isNil", .null⟩, .group .all []]]⟩
    (∀ name ∈ tree.operators, (Operator.partner? name).isSome) ∧
      tree.negated.holds Operator.builtIn [("size", .int 3), ("limit", .int 4)] =
        (tree.holds Operator.builtIn [("size", .int 3), ("limit", .int 4)]).map not := by
  intro tree
  have partnered : ∀ name ∈ tree.operators, (Operator.partner? name).isSome := by decide
  exact ⟨partnered, holds_negated_of_partnered tree partnered _⟩

end ConditionTree

end QueryDesk
