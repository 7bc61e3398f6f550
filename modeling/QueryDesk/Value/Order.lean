/-
**Order of values.**

* `Value.compare` — one of the four order relations between two values: numbers across their kinds,
  texts by code points, dates and times, lists and tuples by their first difference, sets by
  inclusion. Other pairs cannot be put in order, and a decimal cannot be compared with what is not a
  number.
* `Value.toDouble` — the double a value stands for when it has to be read as a number.
-/

import QueryDesk.Text.Half
import QueryDesk.Value.Equality

namespace QueryDesk

/-- The four order relations. -/
inductive Relation where
  | less
  | lessOrEqual
  | greater
  | greaterOrEqual
deriving DecidableEq, Repr

namespace Relation

/-- The relation of two whole numbers. -/
def holds (relation : Relation) (a b : Int) : Bool :=
  match relation with
  | .less => decide (a < b)
  | .lessOrEqual => decide (a ≤ b)
  | .greater => decide (b < a)
  | .greaterOrEqual => decide (b ≤ a)

/-- The relation of two texts by code points. -/
def holdsOfTexts (relation : Relation) (a b : String) : Bool :=
  match relation with
  | .less => decide (Text.codePoints a < Text.codePoints b)
  | .lessOrEqual => !decide (Text.codePoints b < Text.codePoints a)
  | .greater => decide (Text.codePoints b < Text.codePoints a)
  | .greaterOrEqual => !decide (Text.codePoints a < Text.codePoints b)

/-- The relation of two places on the number line. -/
def holdsOfMagnitudes (relation : Relation) (a b : Magnitude) : Bool :=
  match relation with
  | .less => a.below b
  | .lessOrEqual => a.below b || a.same b
  | .greater => b.below a
  | .greaterOrEqual => b.below a || a.same b

end Relation

namespace Value

/-- The relation of two values that hold no others. -/
def compareAtoms (relation : Relation) (a b : Value) : Except Fault Bool :=
  match a.magnitude?, b.magnitude? with
  | some left, some right =>
    if (a.isDecimal || b.isDecimal) && (left.isNaN || right.isNaN) then .error .invalidOperation
    else .ok (relation.holdsOfMagnitudes left right)
  | _, _ => match a, b with
    | .text left, .text right => .ok (relation.holdsOfTexts left right)
    | .date left, .date right => .ok (relation.holds left.dayNumber right.dayNumber)
    | .datetime left, .datetime right =>
      if left.time.offset.isSome = right.time.offset.isSome then
        .ok (relation.holds left.instant right.instant)
      else .error .incomparable
    | .time left, .time right =>
      if left.offset.isSome = right.offset.isSome then
        .ok (relation.holds left.instant right.instant)
      else .error .incomparable
    | _, _ => .error .incomparable

/-- The relation of two sets: inclusion, proper for the strict relations. -/
def compareSets (relation : Relation) (left right : List Value) : Except Fault Bool :=
  match relation with
  | .less =>
    if left.length < right.length then includedIn left right else .ok false
  | .lessOrEqual => includedIn left right
  | .greater =>
    if right.length < left.length then includedIn right left else .ok false
  | .greaterOrEqual => includedIn right left

mutual

/-- The relation of two values. -/
def compare (relation : Relation) : Value → Value → Except Fault Bool
  | .list left, .list right => compareItems relation left right
  | .tuple left, .tuple right => compareItems relation left right
  | .set left, .set right => compareSets relation left right
  | a, b => compareAtoms relation a b

/-- The relation of two sequences is that of their first different elements, or of their lengths
when one begins with the other. -/
def compareItems (relation : Relation) : List Value → List Value → Except Fault Bool
  | a :: left, b :: right => do
    if ← equal a b then compareItems relation left right else compare relation a b
  | left, right => .ok (relation.holds left.length right.length)

end

/-- The double a value stands for when it has to be read as a number; none when it is no number. -/
def toDouble : Value → Except Fault (Option Binary64)
  | .bool truth => .ok (some (Binary64.ofInt (if truth then 1 else 0)))
  | .int number =>
    let rounded := Binary64.ofInt number
    if rounded.isFinite then .ok (some rounded) else .error .doubleOverflow
  | .double number => .ok (some number)
  | .decimal number => .ok (if number.isSignalling then none else some number.toDouble)
  | .text content => .ok (Numeral.double? content)
  | _ => .ok none

end Value

end QueryDesk
