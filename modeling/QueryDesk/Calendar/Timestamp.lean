/-
**Points in time from text.**

* `Timestamp.iso?` — year, month and day in this order, with or without one kind of separator, and a
  clock and an offset behind them; what follows the year may be missing from the end on.
* `Timestamp.quarter?` — the first day of a quarter: `2024Q1`, `2024-Q1`, `1Q2024`, `1Q-2024`.
* `Timestamp.ofText?` — these and the free forms of `Draft`. Only points in time whose distance from
  1970 in nanoseconds fits a signed word of 64 bits are read.
-/

import QueryDesk.Calendar.Pattern

namespace QueryDesk

open Text

namespace Timestamp

/-- A point in time: the moment to the microsecond, and the nanoseconds beyond it. -/
structure Stamp where
  moment : Datetime
  nanosecond : Nat
deriving DecidableEq, Repr

/-- The largest distance from 1970 in nanoseconds. -/
def farthest : Nat := 9223372036854775807

/-- Whether a point in time is near enough. -/
def Stamp.isInReach (stamp : Stamp) : Bool :=
  decide ((stamp.moment.instant * 1000 + stamp.nanosecond).natAbs ≤ farthest)

/-- The point in time, if it is near enough. -/
def Stamp.bounded? (stamp : Stamp) : Option Datetime :=
  if stamp.isInReach then some stamp.moment else none

/-! ### The international notation -/

/-- A number of one digit, or of two when a second digit follows; `need` asks for both. -/
def shortNumber? (need : Bool) : List Char → Option (Nat × List Char)
  | a :: b :: rest =>
    if !isAsciiDigit a then none
    else if isAsciiDigit b then some (readDigits [a, b], rest)
    else if need then none else some (asciiDigit a, b :: rest)
  | [a] => if isAsciiDigit a && !need then some (asciiDigit a, []) else none
  | [] => none

/-- Four digits and what follows them. -/
def year? : List Char → Option (Nat × List Char)
  | a :: b :: c :: d :: rest =>
    if [a, b, c, d].all isAsciiDigit then some (readDigits [a, b, c, d], rest) else none
  | _ => none

/-- The marks that may separate year, month and day. -/
def dateMarks : List Char := ['-', '.', '/', '\\', ' ']

/-- A date and what follows it; the date may end after the year or, with separators, the month. -/
def date? (text : List Char) : Option (Date × List Char) := do
  let (year, rest) ← year? text
  match rest with
  | [] => some (⟨year, 1, 1⟩, [])
  | mark :: afterMark =>
    if isAsciiDigit mark then
      let (month, rest) ← shortNumber? true rest
      let (day, rest) ← shortNumber? true rest
      some (⟨year, month, day⟩, rest)
    else if dateMarks.contains mark then
      let (month, rest) ← shortNumber? false afterMark
      match rest with
      | [] => some (⟨year, month, 1⟩, [])
      | other :: afterOther =>
        if other = mark then
          let (day, rest) ← shortNumber? false afterOther
          some (⟨year, month, day⟩, rest)
        else none
    else none

/-- An offset in minutes, after its sign: hours of one or two digits, perhaps a colon, and
minutes of one or two digits. -/
def offsetMinutes? (text : List Char) : Option (Nat × List Char) := do
  let (hours, rest) ← shortNumber? false text
  let (minutes, rest) ← match rest with
    | [] => some (0, [])
    | ':' :: more => shortNumber? false more
    | _ => shortNumber? false rest
  if hours < 24 ∧ minutes < 60 then some (60 * hours + minutes, rest) else none

/-- The space and the five control characters that move the place of writing. -/
def isPlainBlank (c : Char) : Bool := c == ' ' || decide (9 ≤ c.toNat) && decide (c.toNat ≤ 13)

/-- The offset in microseconds at the end of a text; none inside for a text without one. -/
def zone? (text : List Char) : Option (Option Int) :=
  match text.dropWhile isPlainBlank with
  | [] => some none
  | 'Z' :: rest => if rest.all isPlainBlank then some (some 0) else none
  | sign :: rest =>
    if sign = '+' ∨ sign = '-' then
      match offsetMinutes? rest with
      | some (minutes, more) =>
        let size : Int := (minutes * 60000000 : Nat)
        if more.all isPlainBlank then some (some (if sign = '-' then -size else size)) else none
      | none => none
    else none

/-- A clock with the digits of the fraction of its second. -/
structure Clock where
  hour : Nat
  minute : Nat
  second : Nat
  fraction : List Char

/-- Seconds and their fraction. -/
def seconds? (hour minute : Nat) (colons : Bool) (text : List Char) :
    Option (Clock × List Char) := do
  let (second, rest) ← shortNumber? (!colons) text
  match rest with
  | '.' :: more =>
    some (⟨hour, minute, second, more.takeWhile isAsciiDigit⟩, more.dropWhile isAsciiDigit)
  | _ => some (⟨hour, minute, second, []⟩, rest)

/-- Minutes and what follows them. -/
def minutes? (hour : Nat) (colons : Bool) (text : List Char) : Option (Clock × List Char) := do
  let (minute, rest) ← shortNumber? (!colons) text
  match rest with
  | ':' :: more =>
    if colons then seconds? hour minute colons more else some (⟨hour, minute, 0, []⟩, rest)
  | c :: _ =>
    if !colons && isAsciiDigit c then seconds? hour minute colons rest
    else some (⟨hour, minute, 0, []⟩, rest)
  | [] => some (⟨hour, minute, 0, []⟩, [])

/-- A clock: its parts are separated by colons everywhere or nowhere. An hour of one
digit needs a colon behind it. -/
def clock? (text : List Char) : Option (Clock × List Char) := do
  let (hour, rest) ← shortNumber? false text
  let twoDigits := decide (rest.length + 2 = text.length)
  match rest with
  | ':' :: more => minutes? hour true more
  | c :: _ =>
    if isAsciiDigit c then minutes? hour false rest
    else if twoDigits then some (⟨hour, 0, 0, []⟩, rest) else none
  | [] => if twoDigits then some (⟨hour, 0, 0, []⟩, []) else none

/-- The stamp of a date, a clock and an offset, if they exist. -/
def ofParts? (date : Date) (clock : Clock) (offset : Option Int) : Option Stamp :=
  let digits := (clock.fraction ++ List.replicate 9 '0').take 9
  let time : Time :=
    ⟨clock.hour, clock.minute, clock.second, readDigits (digits.take 6), offset⟩
  if date.isValid && time.isValid && decide (clock.fraction.length ≤ 18) then
    some ⟨⟨date, time⟩, readDigits (digits.drop 6)⟩
  else none

/-- Reads the international notation. -/
def iso? (text : List Char) : Option Stamp := do
  let (date, rest) ← date? text
  match rest with
  | [] => ofParts? date ⟨0, 0, 0, []⟩ none
  | mark :: more =>
    if mark = 'T' ∨ mark = ' ' then
      let (clock, rest) ← clock? more
      ofParts? date clock (← zone? rest)
    else none

/-! ### Quarters -/

/-- The first day of a quarter. -/
def quarterStart (year quarter : List Char) : Option Date :=
  let number := readDigits quarter
  if year.all isAsciiDigit && quarter.all isAsciiDigit && decide (1 ≤ number) && decide (number ≤ 4)
  then some ⟨readDigits year, 3 * number - 2, 1⟩ else none

/-- Reads a quarter; a year of two digits is one of this century. -/
def quarter? (text : List Char) : Option Date :=
  match text.map Char.toUpper with
  | [a, b, c, d, 'Q', q] => quarterStart [a, b, c, d] [q]
  | [a, b, c, d, '-', 'Q', q] => quarterStart [a, b, c, d] [q]
  | [q, 'Q', a, b, c, d] => quarterStart [a, b, c, d] [q]
  | [q, 'Q', '-', a, b, c, d] => quarterStart [a, b, c, d] [q]
  | [a, b, 'Q', q] => quarterStart ['2', '0', a, b] [q]
  | [a, b, '-', 'Q', q] => quarterStart ['2', '0', a, b] [q]
  | [q, 'Q', a, b] => quarterStart ['2', '0', a, b] [q]
  | [q, 'Q', '-', a, b] => quarterStart ['2', '0', a, b] [q]
  | _ => none

/-! ### All forms -/

/-- The words for a point in time that does not exist. -/
def absentWords : List String := ["NaT", "nat", "NAT", "nan", "NaN", "NAN"]

/-- Whether the text begins with an hour and a minute around a colon. -/
def startsWithClock (text : List Char) : Bool :=
  match text with
  | h :: ':' :: m :: n :: _ => [h, m, n].all isAsciiDigit && decide (readDigits [m, n] < 60)
  | g :: h :: ':' :: m :: n :: _ =>
    [g, h, m, n].all isAsciiDigit && decide (readDigits [g, h] < 24) &&
      decide (readDigits [m, n] < 60)
  | _ => false

/-- The same date and clock without an offset. -/
def withoutOffset (moment : Datetime) : Datetime :=
  { moment with time := { moment.time with offset := none } }

/-- The free forms: a text that is a clock stands for a time of an unspecified day,
every other one needs a year. -/
def freeForm? (text : String) (draft : Draft) : Option Datetime :=
  draft.toDatetime? (if startsWithClock text.toList then 1970 else 1)

/-- The point in time a text spells. -/
def ofText? (text : String) : Option Datetime :=
  if absentWords.contains text then none
  else
    let tokens := Token.scan text
    let draft := Draft.ofTokens? tokens
    let free := draft.bind (freeForm? text)
    match draft, free with
    | some read, some moment =>
      if Pattern.passesOverZone read moment tokens then Stamp.bounded? ⟨withoutOffset moment, 0⟩
      else match iso? text.toList with
        | some stamp => stamp.bounded?
        | none => Stamp.bounded? ⟨moment, 0⟩
    | _, _ => match iso? text.toList with
      | some stamp => stamp.bounded?
      | none => (quarter? text.toList).bind fun date => Stamp.bounded? ⟨Datetime.ofDate date, 0⟩

end Timestamp

end QueryDesk
