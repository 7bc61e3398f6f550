/-
**The values of cells, binds, facts and documents.**

* `Value` — nothing, truth values, whole numbers, doubles, decimals, dates and times, texts, and the
  containers built from them. A dict keeps its entries in the order they were put in.
* `Value.get?` — the entry of a dict under a text key.
-/

import QueryDesk.Number.Decimal
import QueryDesk.Calendar.Basic

namespace QueryDesk

/-- A value of any kind. -/
inductive Value where
  | null
  | bool (truth : Bool)
  | int (number : Int)
  | double (number : Binary64)
  | decimal (number : Decimal)
  | datetime (moment : Datetime)
  | date (day : Date)
  | time (clock : Time)
  | text (content : String)
  | list (items : List Value)
  | tuple (items : List Value)
  | set (items : List Value)
  | dict (entries : List (Value × Value))
deriving Repr, Inhabited

namespace Value

/-- Whether the value is nothing. -/
def isNull : Value → Bool
  | .null => true
  | _ => false

/-- A dict with text keys. -/
def record (entries : List (String × Value)) : Value :=
  .dict (entries.map fun (name, value) => (.text name, value))

/-- The first entry among pairs under a text key. -/
def lookup? (name : String) : List (Value × Value) → Option Value
  | [] => none
  | (.text key, value) :: rest => if key = name then some value else lookup? name rest
  | _ :: rest => lookup? name rest

/-- The entry of a dict under a text key. -/
def get? (name : String) : Value → Option Value
  | .dict entries => lookup? name entries
  | _ => none

/-- The elements of a list or tuple. -/
def elements? : Value → Option (List Value)
  | .list items => some items
  | .tuple items => some items
  | _ => none

/-- Whether the value is a list or tuple. -/
def isArray (value : Value) : Bool := value.elements?.isSome

/-- The word for the kind of a value in messages about it. -/
def kindName : Value → String
  | .null => "NoneType"
  | .bool _ => "bool"
  | .int _ => "int"
  | .double _ => "float"
  | .decimal _ => "decimal.Decimal"
  | .datetime _ => "datetime.datetime"
  | .date _ => "datetime.date"
  | .time _ => "datetime.time"
  | .text _ => "str"
  | .list _ => "list"
  | .tuple _ => "tuple"
  | .set _ => "set"
  | .dict _ => "dict"

/-- Whether a value counts as present: everything but nothing, zero, and what is empty. -/
def isTruthy : Value → Bool
  | .null => false
  | .bool truth => truth
  | .int number => number != 0
  | .double (.finite _ mantissa _) => mantissa != 0
  | .decimal (.finite _ coefficient _) => coefficient != 0
  | .text content => !content.isEmpty
  | .list items => !items.isEmpty
  | .tuple items => !items.isEmpty
  | .set items => !items.isEmpty
  | .dict entries => !entries.isEmpty
  | _ => true

end Value

end QueryDesk
