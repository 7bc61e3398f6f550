/-
**Condition trees from data.**

* `ConditionTree.reading` — reads a group: a record with the single key `all` or `any` and a list of
  nodes under it. A node is such a group, or a leaf with a fact, an operator and perhaps a value.
  Data that is neither has the issues of all the shapes it might have had.
* `ConditionTree.read` — the same with a single failure that counts the issues.
-/

import QueryDesk.Model.Reading
import QueryDesk.Rule.Condition

namespace QueryDesk

namespace Condition

open Checked

/-- The first reading that succeeds, or the issues of all. -/
def firstGood {α : Type} : List (Checked α) → Checked α
  | [] => .bad []
  | .good result :: _ => .good result
  | .bad found :: rest =>
    match firstGood rest with
    | .good result => .good result
    | .bad more => .bad (found ++ more)

/-- A leaf from the fields of a record. -/
def leafOfFields (fields : Fields) : Checked Leaf :=
  let build (fact operator : String) (value : Value) (_ : Unit) : Leaf := ⟨fact, operator, value⟩
  build <$> fields.required ["fact"] Reading.text <*> fields.required ["operator"] Reading.text <*>
    fields.defaulted ["value"] .null Reading.anything <*>
    fields.noOthers ["fact", "operator", "value"]

/-- Reads a leaf. -/
def leafReading : Reading Leaf := Reading.record leafOfFields

/-- A group from the reading of its children, if there are any under its key, and its fields. -/
def groupOfFields (connective : Connective) (children : Option (Checked (List Condition)))
    (fields : Fields) : Checked Condition :=
  let build (found : List Condition) (_ : Unit) : Condition := .group connective found
  build <$> under connective.key (children.getD (refuse .missing)) <*>
    fields.noOthers [connective.key]

/-- The name under which the issues of a shape are placed. -/
def groupShape : Connective → String
  | .all => "AllConditions"
  | .any => "AnyConditions"

mutual

/-- The two readings of a record as a group. -/
def groupReadings : List (Value × Value) → List (Checked Condition)
  | fields =>
    [under (groupShape .all) (groupOfFields .all (childrenUnder "all" fields) fields),
      under (groupShape .any) (groupOfFields .any (childrenUnder "any" fields) fields)]

/-- Reads a node. -/
def readNode : Value → Checked Condition
  | .dict fields =>
    firstGood (groupReadings fields ++ [under "ConditionLeaf" (map leaf (leafOfFields fields))])
  | _ =>
    .bad (["AllConditions", "AnyConditions", "ConditionLeaf"].map fun shape =>
      (Issue.here .modelType).under shape)

/-- Reads the nodes under a key, if the key is there. -/
def childrenUnder (key : String) : List (Value × Value) → Option (Checked (List Condition))
  | [] => none
  | (.text name,
    value) :: rest => if name = key then some (readNodes value) else childrenUnder key rest
  | _ :: rest => childrenUnder key rest

/-- Reads a list of nodes. -/
def readNodes : Value → Checked (List Condition)
  | .list items => readNodesFrom 0 items
  | .tuple items => readNodesFrom 0 items
  | .set items => readNodesFrom 0 items
  | _ => refuse .listType

/-- Reads nodes one by one, the first under the given number. -/
def readNodesFrom : Nat → List Value → Checked (List Condition)
  | _, [] => .good []
  | place, item :: rest =>
    seq (map List.cons (under (toString place) (readNode item))) fun _ =>
      readNodesFrom (place + 1) rest

end

end Condition

namespace ConditionTree

open Checked

/-- A group as a tree. -/
def ofCondition : Condition → ConditionTree
  | .group connective children => ⟨connective, children⟩
  | .leaf comparison => ⟨.all, [.leaf comparison]⟩

/-- Reads a tree, with the issues in their places. -/
def reading : Reading ConditionTree
  | .dict fields => map ofCondition (Condition.firstGood (Condition.groupReadings fields))
  | _ =>
    .bad (["AllConditions", "AnyConditions"].map fun shape =>
      (Issue.here .modelType).under shape)

/-- Reads a tree. -/
def read (data : Value) : Except Failure ConditionTree :=
  match reading data with
  | .good tree => .ok tree
  | .bad issues => .error (.malformedConditions issues.length)

/-- Reads a tree if the data is there and not empty. -/
def readIfGiven (data : Value) : Except Failure (Option ConditionTree) :=
  if data.isTruthy then (read data).map some else .ok none

end ConditionTree

end QueryDesk
