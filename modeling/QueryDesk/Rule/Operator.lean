/-
**The operators of rules.**

* `OperatorTest` — any test of a fact, which may be absent, against a value.
* `Operator` — the built-in tests; `Operator.ofName?` finds one by name.
* `Operator.holds` — whether a built-in test succeeds. Comparisons of what cannot be put in order
  are made between doubles, and fail where there are none.
* `Operator.builtIn` — the built-in tests by name.
-/

import QueryDesk.Value.Order
import QueryDesk.Value.Text
import QueryDesk.Failure

namespace QueryDesk

/-- A test of a fact, which may be absent, against a value. -/
abbrev OperatorTest := Option Value → Value → Except Failure Bool

/-- Tests by name. -/
abbrev OperatorTable := List (String × OperatorTest)

/-- A built-in test of a fact against a value. -/
inductive Operator where
  | equal
  | notEqual
  | compare (relation : Relation)
  | isIn
  | isNotIn
  | contains
  | doesNotContain
  | between
  | isNull
  | isNotNull
  | isNil
  | isNotNil
  | startsWith
  | endsWith
deriving DecidableEq, Repr

namespace Operator

/-- The built-in operators with their names. -/
def named : List (String × Operator) := [
  ("equal", .equal),
  ("notEqual", .notEqual),
  ("lessThan", .compare .less),
  ("lessThanInclusive", .compare .lessOrEqual),
  ("greaterThan", .compare .greater),
  ("greaterThanInclusive", .compare .greaterOrEqual),
  ("in", .isIn),
  ("notIn", .isNotIn),
  ("contains", .contains),
  ("doesNotContain", .doesNotContain),
  ("between", .between),
  ("isNull", .isNull),
  ("isNotNull", .isNotNull),
  ("isNil", .isNil),
  ("isNotNil", .isNotNil),
  ("startsWith", .startsWith),
  ("endsWith", .endsWith)]

/-- The built-in operator of a name. -/
def ofName? (name : String) : Option Operator := named.lookup name

/-- The relation of the doubles two values stand for; it does not hold when one stands for none. -/
def compareDoubles (relation : Relation) (fact value : Value) : Except Fault Bool := do
  match ← fact.toDouble with
  | none => pure false
  | some left =>
    match ← value.toDouble with
    | none => pure false
    | some right => pure (relation.holdsOfMagnitudes (.ofDouble left) (.ofDouble right))

/-- The relation of two values, or of the doubles they stand for when the values
themselves cannot be put in order. -/
def compareValues (relation : Relation) (fact value : Value) : Except Fault Bool :=
  match Value.compare relation fact value with
  | .error .incomparable => compareDoubles relation fact value
  | outcome => outcome

/-- The relation of a fact and a value, neither of which may be missing. -/
def comparePresent (relation : Relation) (fact : Option Value) (value : Value) :
    Except Fault Bool :=
  match fact with
  | none => .ok false
  | some .null => .ok false
  | some present => if value.isNull then .ok false else compareValues relation present value

/-- Whether a fact is an element of a set; only what may be a key can be. -/
def isInSet (fact : Value) (items : List Value) : Except Fault Bool :=
  match fact with
  | .set _ => .ok false
  | _ => do
    fact.checkKey
    pure (items.any (Value.sameKey fact))

/-- Whether a value is an element of a container; nothing is an element of what is none. -/
def isElement (item container : Value) : Except Fault Bool :=
  match container with
  | .list items => item.memberOf items
  | .tuple items => item.memberOf items
  | .set items => isInSet item items
  | _ => .ok false

/-- Whether a fact lies between the two bounds of a list. -/
def liesBetween (fact : Option Value) (bounds : Value) : Except Fault Bool :=
  match bounds.elements? with
  | some [low, high] => do
    if ← comparePresent .greaterOrEqual fact low then comparePresent .lessOrEqual fact high
    else pure false
  | _ => .ok false

/-- The text of a fact, empty when it is missing. -/
def factText : Option Value → String
  | none => ""
  | some .null => ""
  | some value => value.toText

/-- A relation of the text of a fact, which may not be empty, and the text of a value. The text of
the value is only asked for when the fact has one. -/
def textHolds (relation : String → String → Bool) (fact : Option Value) (value : Value) :
    Except Failure Bool :=
  if !fact.all Value.hasText then .error (.tooManyDigits none)
  else if (factText fact).isEmpty then .ok false
  else if !value.hasText then .error (.tooManyDigits none)
  else .ok (relation (factText fact) value.toText)

/-- Whether an absent fact is in a container: it is no value, so it never is. -/
def factIsIn (fact : Option Value) (container : Value) : Except Fault Bool :=
  match fact with
  | none => .ok false
  | some value => isElement value container

/-- Whether a fact is a container that holds a value. -/
def factContains (fact : Option Value) (value : Value) : Except Fault Bool :=
  match fact with
  | none => .ok false
  | some container => isElement value container

/-- Whether a fact equals a value. -/
def factEquals (fact : Option Value) (value : Value) : Except Fault Bool :=
  match fact with
  | none => .ok false
  | some present => present.equal value

/-- Whether the test of an operator succeeds for a fact and a value. -/
def holds (operator : Operator) : OperatorTest := fun fact value =>
  match operator with
  | .equal => (factEquals fact value).mapError .value
  | .notEqual => ((factEquals fact value).map not).mapError .value
  | .compare relation => (comparePresent relation fact value).mapError .value
  | .isIn => (factIsIn fact value).mapError .value
  | .isNotIn => ((factIsIn fact value).map not).mapError .value
  | .contains => (factContains fact value).mapError .value
  | .doesNotContain => ((factContains fact value).map not).mapError .value
  | .between => (liesBetween fact value).mapError .value
  | .isNull => .ok (fact.any Value.isNull)
  | .isNotNull => .ok (!fact.any Value.isNull)
  | .isNil => .ok (fact.all Value.isNull)
  | .isNotNil => .ok (!fact.all Value.isNull)
  | .startsWith => textHolds Text.startsWith fact value
  | .endsWith => textHolds Text.endsWith fact value

/-- The built-in tests by name. -/
def builtIn : OperatorTable := named.map fun (name, operator) => (name, operator.holds)

/-- The built-in operators are those with a name. -/
theorem lookup_builtIn (name : String) : builtIn.lookup name = (ofName? name).map holds := by
  unfold builtIn ofName?
  induction named with
  | nil => rfl
  | cons entry rest ih =>
    rw [List.map_cons, List.lookup_cons, List.lookup_cons, ih]
    cases name == entry.1 <;> rfl

end Operator

end QueryDesk
