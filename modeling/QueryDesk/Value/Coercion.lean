/-
**Values turned into what a column holds.**

* `Value.toNumber?`, `toTruth?`, `toDatetime?`, `toTime?` — the value as a number, a truth value, a
  point in time or a time of day; none when it cannot be one.
* `ColumnType.convert` — the conversion a column's type asks for.
* `ColumnType.bindValue` — the value to bind for a column: texts as they are, and a null for what
  cannot be converted or is empty.
-/

import QueryDesk.Value.Text
import QueryDesk.Value.Fault
import QueryDesk.Text.CaseMap
import QueryDesk.Calendar.Timestamp
import QueryDesk.ResultSet.ColumnType

namespace QueryDesk

namespace Value

open Text

/-- The number a text spells: a whole number if it is one, else a finite double. -/
def numberOfText? (text : String) : Option Value :=
  match Numeral.int? text with
  | some number => some (.int number)
  | none =>
    match Numeral.double? text with
    | some number => if number.isFinite then some (.double number) else none
    | none => none

/-- The value as a number. Comparing a signalling not-a-number is a fault, and so is writing what
holds a whole number with too many digits. -/
def toNumber? : Value → Except Fault (Option Value)
  | .null => .ok none
  | .bool _ => .ok none
  | .int number => .ok (some (.int number))
  | .double number => .ok (if number.isNaN then none else some (.double number))
  | .decimal number =>
    if number.isSignalling then .error .invalidOperation
    else .ok (if number.isNaN then none else some (.decimal number))
  | value => value.written.map numberOfText?

/-- The words for true. -/
def trueWords : List String := ["true", "t", "yes", "y", "on", "1"]

/-- The words for false. -/
def falseWords : List String := ["false", "f", "no", "n", "off", "0"]

/-- The value as a truth value. -/
def toTruth? : Value → Option Value
  | .bool truth => some (.bool truth)
  | .int 0 => some (.bool false)
  | .int 1 => some (.bool true)
  | .text content =>
    let word := lower (strip content)
    if trueWords.contains word then some (.bool true)
    else if falseWords.contains word then some (.bool false)
    else none
  | _ => none

/-- The value as a point in time. -/
def toDatetime? : Value → Option Value
  | .datetime moment => some (.datetime moment)
  | .date day => some (.datetime (.ofDate day))
  | .text content =>
    if (strip content).isEmpty then none
    else (Timestamp.ofText? (strip content)).map .datetime
  | _ => none

/-- The value as a time of day. -/
def toTime? : Value → Option Value
  | .datetime moment => some (.time moment.time)
  | .time clock => some (.time clock)
  | .text content =>
    let text := strip content
    if text.isEmpty then none
    else match Time.ofIso? text.toList with
      | some clock => some (.time clock)
      | none => (Timestamp.ofText? text).map fun moment => .time moment.time
  | _ => none

end Value

namespace ColumnType

/-- The value as what the column holds, when its type asks for a conversion; none inside when the
value cannot be converted. -/
def convert? (type : ColumnType) (value : Value) : Except Fault (Option (Option Value)) :=
  if type.isNumericLike then value.toNumber?.map some
  else if type.isBooleanLike then .ok (some value.toTruth?)
  else if type.isDatetimeLike then .ok (some value.toDatetime?)
  else if type.isTimeLike then .ok (some value.toTime?)
  else .ok none

/-- The value as what the column holds, a null when it cannot be converted. -/
def convert (type : ColumnType) (value : Value) : Except Fault Value := do
  match ← type.convert? value with
  | some converted => pure (converted.getD .null)
  | none => pure value

/-- Whether a value is nothing or an empty text. -/
def isBlankValue : Value → Bool
  | .null => true
  | .text content => content.isEmpty
  | _ => false

/-- The value to bind for a column. -/
def bindValue (type : ColumnType) (value : Value) : Except Fault Value :=
  if type.isTextLike then .ok value
  else if isBlankValue value then .ok .null
  else type.convert value

end ColumnType

end QueryDesk
