/-
**Equality of values.**

* `Value.equal` — numbers are equal across their kinds when their exact values are; datetimes with
  offsets are compared in universal time and never equal one without; containers are equal element
  by element, sets and dicts whatever the order. Comparing with a signalling not-a-number is a
  fault; the elements of lists, sets and dicts of different lengths are not compared, those of
  tuples are. Values have no identity: whether two elements are one and the same object is not asked
  before they are compared. The answer would only matter where containers hold a not-a-number.
* `Value.checkKey` — whether a value may be a member of a set or a key.
* `Value.memberOf` — whether a value is one of several.
* `Value.dictOf` — a dict from entries; the last of several entries under one key counts.
-/

import QueryDesk.Value.Basic
import QueryDesk.Value.Fault

namespace QueryDesk

/-- A number of any kind on one scale. -/
inductive Magnitude where
  | exact (value : Rat)
  | infinite (negative : Bool)
  | nan (signalling : Bool)
deriving DecidableEq

namespace Magnitude

/-- The place of a double. -/
def ofDouble : Binary64 → Magnitude
  | .nan => .nan false
  | .infinite negative => .infinite negative
  | number => .exact (number.toRat?.getD 0)

/-- The place of a decimal. -/
def ofDecimal : Decimal → Magnitude
  | .nan signalling _ _ => .nan signalling
  | .infinite negative => .infinite negative
  | number => .exact (number.toRat?.getD 0)

/-- Equality of places; what is not a number equals nothing. -/
def same : Magnitude → Magnitude → Bool
  | .exact a, .exact b => a == b
  | .infinite a, .infinite b => a == b
  | _, _ => false

/-- Strict order of places. -/
def below : Magnitude → Magnitude → Bool
  | .exact a, .exact b => decide (a < b)
  | .infinite a, .infinite b => a && !b
  | .infinite a, .exact _ => a
  | .exact _, .infinite b => !b
  | _, _ => false

/-- Whether the place is that of a signalling not-a-number. -/
def isSignalling : Magnitude → Bool
  | .nan signalling => signalling
  | _ => false

/-- Whether there is no number. -/
def isNaN : Magnitude → Bool
  | .nan _ => true
  | _ => false

end Magnitude

namespace Value

/-- The place of a value on the number line; truth values count as one and zero. -/
def magnitude? : Value → Option Magnitude
  | .bool truth => some (.exact (if truth then 1 else 0))
  | .int number => some (.exact number)
  | .double number => some (.ofDouble number)
  | .decimal number => some (.ofDecimal number)
  | _ => none

/-- Whether the value is a decimal. -/
def isDecimal : Value → Bool
  | .decimal _ => true
  | _ => false

/-- Equality of two values that hold no others. -/
def equalAtoms (a b : Value) : Except Fault Bool :=
  match a.magnitude?, b.magnitude? with
  | some left, some right =>
    if left.isSignalling || right.isSignalling then .error .invalidOperation
    else .ok (left.same right)
  | _, _ => .ok <| match a, b with
    | .null, .null => true
    | .text left, .text right => left == right
    | .date left, .date right => left == right
    | .datetime left, .datetime right =>
      left.time.offset.isSome == right.time.offset.isSome && left.instant == right.instant
    | .time left, .time right =>
      left.offset.isSome == right.offset.isSome && left.instant == right.instant
    | _, _ => false

/-- Whether the test holds for some element; the first fault or success ends the search. -/
def anyOf (test : Value → Except Fault Bool) : List Value → Except Fault Bool
  | [] => .ok false
  | item :: rest => do
    if ← test item then pure true else anyOf test rest

/-- The first entry whose key passes the test. -/
def findEntry (test : Value → Except Fault Bool) :
    List (Value × Value) → Except Fault (Option Value)
  | [] => .ok none
  | (key, value) :: rest => do
    if ← test key then pure (some value) else findEntry test rest

mutual

/-- Equality of values. -/
def equal : Value → Value → Except Fault Bool
  | .list left, .list right =>
    if left.length = right.length then equalItems left right else .ok false
  | .tuple left, .tuple right => equalItems left right
  | .set left, .set right =>
    if left.length = right.length then includedIn left right else .ok false
  | .dict left, .dict right =>
    if left.length = right.length then equalEntries left right else .ok false
  | a, b => equalAtoms a b

/-- Equality element by element. That two elements may be one object is not asked, so a list that
holds a not-a-number does not equal itself. -/
def equalItems : List Value → List Value → Except Fault Bool
  | [], [] => .ok true
  | a :: left, b :: right => do
    if ← equal a b then equalItems left right else pure false
  | _, _ => .ok false

/-- Whether every element of the first list equals one of the second. -/
def includedIn : List Value → List Value → Except Fault Bool
  | [], _ => .ok true
  | a :: left, right => do
    if ← anyOf (fun b => equal a b) right then includedIn left right else pure false

/-- Whether every entry of the first list has an equal one in the second. -/
def equalEntries : List (Value × Value) → List (Value × Value) → Except Fault Bool
  | [], _ => .ok true
  | (key, a) :: left, right => do
    match ← findEntry (fun other => equal key other) right with
    | some b => if ← equal a b then equalEntries left right else pure false
    | none => pure false

end

/-- Whether a value is one of several, by equality alone. That an element may be the very object
that is sought is not asked, so a not-a-number is never found. -/
def memberOf (value : Value) (items : List Value) : Except Fault Bool :=
  anyOf (fun item => equal item value) items

mutual

/-- Succeeds when the value may be a member of a set or a key. -/
def checkKey : Value → Except Fault Unit
  | .list _ => .error (.unhashable "list")
  | .set _ => .error (.unhashable "set")
  | .dict _ => .error (.unhashable "dict")
  | .decimal number => if number.isSignalling then .error .signallingKey else .ok ()
  | .tuple items => checkKeys items
  | _ => .ok ()

/-- Succeeds when all values may be members or keys. -/
def checkKeys : List Value → Except Fault Unit
  | [] => .ok ()
  | item :: rest => do
    checkKey item
    checkKeys rest

end

/-- Whether two values that may be keys are the same key, by equality alone. That they may be one
object is not asked, so a not-a-number is not even the same key as itself. -/
def sameKey (a b : Value) : Bool :=
  match equal a b with
  | .ok same => same
  | .error _ => false

/-- Puts an entry into a dict: under a key that is already there the value is replaced in place, a
new key goes to the end. -/
def putEntry (key value : Value) : List (Value × Value) → List (Value × Value)
  | [] => [(key, value)]
  | (other, old) :: rest =>
    if sameKey other key then (other, value) :: rest else (other, old) :: putEntry key value rest

/-- The dict that results from putting in the entries one after another. -/
def dictOf (entries : List (Value × Value)) : Value :=
  .dict (entries.foldl (fun built (key, value) => putEntry key value built) [])

end Value

end QueryDesk
