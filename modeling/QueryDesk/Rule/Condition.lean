/-
**Condition trees.**

A condition is a comparison of a fact with a value, or a group of conditions of which all or any
have to hold. A tree is a group.

* `Condition`, `ConditionTree` — the tree and its parts.
* `Leaf.valueFact?` — the fact a leaf compares with, when its value names one.
* `ConditionTree.leaves` — the leaves in document order.
* `ConditionTree.toValue` — the tree as data; `ConditionTree.read` (in
  `Rule.ConditionReading`) is its inverse.
-/

import QueryDesk.Value.Basic

namespace QueryDesk

/-- How the conditions of a group are joined. -/
inductive Connective where
  | all
  | any
deriving DecidableEq, Repr

namespace Connective

/-- The key of a group of this sort. -/
def key : Connective → String
  | .all => "all"
  | .any => "any"

/-- The SQL word of a connective. -/
def sql : Connective → String
  | .all => "AND"
  | .any => "OR"

end Connective

/-- A comparison of a fact with a value, by an operator. -/
structure Leaf where
  fact : String
  operator : String
  value : Value
deriving Repr

namespace Leaf

/-- The fact whose value a leaf compares with, when its value names one. -/
def valueFact? (leaf : Leaf) : Option String :=
  match leaf.value.get? "fact" with
  | some (.text name) => some name
  | _ => none

/-- A leaf as data. -/
def toValue (leaf : Leaf) : Value :=
  .record [("fact", .text leaf.fact), ("operator", .text leaf.operator), ("value", leaf.value)]

end Leaf

/-- A comparison or a group of conditions. -/
inductive Condition where
  | leaf (comparison : Leaf)
  | group (connective : Connective) (children : List Condition)
deriving Repr

/-- A group of conditions and how they are joined. -/
structure ConditionTree where
  connective : Connective
  children : List Condition
deriving Repr

namespace Condition

mutual

/-- The leaves of a condition in document order. -/
def leaves : Condition → List Leaf
  | .leaf comparison => [comparison]
  | .group _ children => leavesOf children

/-- The leaves of several conditions in document order. -/
def leavesOf : List Condition → List Leaf
  | [] => []
  | child :: rest => leaves child ++ leavesOf rest

end

mutual

/-- A condition as data. -/
def toValue : Condition → Value
  | .leaf comparison => comparison.toValue
  | .group connective children => .record [(connective.key, .list (toValues children))]

/-- Several conditions as data. -/
def toValues : List Condition → List Value
  | [] => []
  | child :: rest => toValue child :: toValues rest

end

end Condition

namespace ConditionTree

/-- A tree as a condition. -/
def toCondition (tree : ConditionTree) : Condition := .group tree.connective tree.children

/-- The leaves in document order. -/
def leaves (tree : ConditionTree) : List Leaf := Condition.leavesOf tree.children

/-- The names of all operators in document order. -/
def operators (tree : ConditionTree) : List String := tree.leaves.map Leaf.operator

/-- A tree as data. -/
def toValue (tree : ConditionTree) : Value := tree.toCondition.toValue

end ConditionTree

end QueryDesk
