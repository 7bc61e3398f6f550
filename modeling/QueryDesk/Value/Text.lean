/-
**Values as text.**

* `Value.toText` — the text of a value by itself: a text is its own content.
* `Value.quoted` — the text of a value inside a container or a message: texts stand between quotes,
  decimals, dates and times name their kind.
* `Value.hasText` — whether a value has a text at all: a whole number with too many digits has none.
* `Value.written` — the text of a value, if it has one.
* `Value.bareText`, `Value.cellText` — the text two cells are compared by: nothing is the empty
  text; and this text, if there is one.
-/

import QueryDesk.Value.Basic
import QueryDesk.Value.Fault
import QueryDesk.Number.Shortest
import QueryDesk.Calendar.Iso
import QueryDesk.Text.Quoted

namespace QueryDesk

/-- Numbers between commas. -/
def joinNumbers (numbers : List Nat) : String := ", ".intercalate (numbers.map toString)

/-- A span of time as days, seconds and microseconds, of which only the days may be negative. -/
def spanText (microseconds : Int) : String :=
  let days := microseconds / 86400000000
  let rest := (microseconds % 86400000000).toNat
  let parts := [("days", days), ("seconds", (rest / 1000000 : Nat)),
    ("microseconds", (rest % 1000000 : Nat))].filter fun part => part.2 != 0
  "datetime.timedelta(" ++
    (if parts.isEmpty then "0"
     else ", ".intercalate (parts.map fun (name, size) => name ++ "=" ++ toString size)) ++ ")"

/-- An offset from universal time, with the words that introduce it. -/
def zoneText : Option Int → String
  | none => ""
  | some 0 => ", tzinfo=datetime.timezone.utc"
  | some offset => ", tzinfo=datetime.timezone(" ++ spanText offset ++ ")"

/-- The clock numbers of a time: seconds and microseconds are left out from the end when zero. -/
def Time.numbers (time : Time) : List Nat :=
  if time.microsecond ≠ 0 then [time.hour, time.minute, time.second, time.microsecond]
  else if time.second ≠ 0 then [time.hour, time.minute, time.second]
  else [time.hour, time.minute]

namespace Value

/-- The text of a value that holds no other values, as it stands inside a container. -/
def quotedAtom : Value → String
  | .null => "None"
  | .bool truth => if truth then "True" else "False"
  | .int number => toString number
  | .double number => DoubleFormat.plain.write number
  | .decimal number => "Decimal('" ++ number.toText ++ "')"
  | .datetime moment =>
    "datetime.datetime(" ++
      joinNumbers ([moment.date.year, moment.date.month, moment.date.day] ++ moment.time.numbers) ++
      zoneText moment.time.offset ++ ")"
  | .date day => "datetime.date(" ++ joinNumbers [day.year, day.month, day.day] ++ ")"
  | .time clock => "datetime.time(" ++ joinNumbers clock.numbers ++ zoneText clock.offset ++ ")"
  | .text content => Text.quoted content
  | _ => ""

mutual

/-- The text of a value inside a container or a message. -/
def quoted : Value → String
  | .list items => "[" ++ ", ".intercalate (quotedItems items) ++ "]"
  | .tuple [item] => "(" ++ quoted item ++ ",)"
  | .tuple items => "(" ++ ", ".intercalate (quotedItems items) ++ ")"
  | .set [] => "set()"
  | .set items => "\x7b" ++ ", ".intercalate (quotedItems items) ++ "\x7d"
  | .dict entries => "\x7b" ++ ", ".intercalate (quotedEntries entries) ++ "\x7d"
  | atom => quotedAtom atom

/-- The texts of the elements of a container. -/
def quotedItems : List Value → List String
  | [] => []
  | item :: rest => quoted item :: quotedItems rest

/-- The texts of the entries of a dict. -/
def quotedEntries : List (Value × Value) → List String
  | [] => []
  | (key, value) :: rest => (quoted key ++ ": " ++ quoted value) :: quotedEntries rest

end

/-- The text of a value by itself. -/
def toText : Value → String
  | .text content => content
  | .decimal number => number.toText
  | .datetime moment => moment.toIso " "
  | .date day => day.toIso
  | .time clock => clock.toIso
  | value => quoted value

mutual

/-- Whether a value has a text: each whole number inside it has few enough digits to be written. -/
def hasText : Value → Bool
  | .int number => Numeral.isWritable number
  | .list items => haveTexts items
  | .tuple items => haveTexts items
  | .set items => haveTexts items
  | .dict entries => entriesHaveTexts entries
  | _ => true

/-- Whether all of several values have a text. -/
def haveTexts : List Value → Bool
  | [] => true
  | item :: rest => hasText item && haveTexts rest

/-- Whether the keys and values of a dict have a text. -/
def entriesHaveTexts : List (Value × Value) → Bool
  | [] => true
  | (key, value) :: rest => hasText key && hasText value && entriesHaveTexts rest

end

/-- The text of a value, if it has one. -/
def written (value : Value) : Except Fault String :=
  if value.hasText then .ok value.toText else .error .tooManyDigits

/-- The text of a cell whose value has one: nothing is the empty text. -/
def bareText : Value → String
  | .null => ""
  | value => value.toText

/-- The text two cells are compared by, if there is one. -/
def cellText (value : Value) : Except Fault String :=
  if value.hasText then .ok value.bareText else .error .tooManyDigits

end Value

end QueryDesk
