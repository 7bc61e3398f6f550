/-
**Dates and times as people write them.**

The tokens of a text are read one after another into a draft: clocks, offsets from universal time,
month names, and up to three plain numbers for year, month and day.

* `Draft` — what has been read so far.
* `Draft.step` — one token, or several that belong together.
* `Draft.ofTokens?` — the whole text; none when some token has no meaning in its place.
* `Draft.civil` — which of the plain numbers is the year, the month and the day: the month comes
  first, unless the number there is too large for a month or the year stands in front.
-/

import QueryDesk.Calendar.Basic
import QueryDesk.Calendar.Token
import QueryDesk.Number.Numeral

namespace QueryDesk

open Text

/-! ### Words -/

namespace CalendarWord

/-- Lower case of ASCII letters. -/
def small (word : String) : String := String.ofList (word.toList.map Char.toLower)

/-- The names of the months. -/
def monthNames : List String :=
  ["January", "February", "March", "April", "May", "June", "July", "August", "September",
    "October", "November", "December"]

/-- The names of the days of the week. -/
def weekdayNames : List String :=
  ["Monday", "Tuesday", "Wednesday", "Thursday", "Friday", "Saturday", "Sunday"]

/-- The first three letters of a name. -/
def short (name : String) : String := String.ofList (name.toList.take 3)

/-- The number of the name that the word is or abbreviates, counted from zero. -/
def place? (names : List String) (word : String) : Option Nat :=
  names.findIdx? fun name => small word == small name || small word == small (short name)

/-- The number of a month, from 1. -/
def month? (word : String) : Option Nat :=
  if small word = "sept" then some 9 else (place? monthNames word).map (· + 1)

/-- The number of a day of the week, Monday being 0. -/
def weekday? (word : String) : Option Nat := place? weekdayNames word

/-- A part of a clock reading. -/
inductive ClockPart where
  | hour
  | minute
  | second
deriving DecidableEq, Repr

/-- The part of a clock reading that a word names. -/
def part? (word : String) : Option ClockPart :=
  match small word with
  | "h" | "hour" | "hours" => some .hour
  | "m" | "minute" | "minutes" => some .minute
  | "s" | "second" | "seconds" => some .second
  | _ => none

/-- The half of the day that a word names; `true` is the second one. -/
def half? (word : String) : Option Bool :=
  match small word with
  | "am" | "a" => some false
  | "pm" | "p" => some true
  | _ => none

/-- Whether a token may stand anywhere without a meaning of its own. -/
def isFiller (word : String) : Bool :=
  [" ", ".", ",", ";", "-", "/", "'", "at", "on", "and", "ad", "m", "t", "of", "st", "nd", "rd",
    "th"].contains (small word)

/-- Whether a word names universal time. -/
def isUniversal (word : String) : Bool := ["UTC", "GMT", "Z", "z"].contains word

end CalendarWord

/-- A number among the tokens: its whole part, and the digits behind the point if there is one. -/
structure PlainNumber where
  whole : Nat
  fraction : List Char
deriving Repr

namespace PlainNumber

/-- The digits of any script as ASCII digits. -/
def plainDigits (text : String) : List Char := text.toList.map Numeral.plainChar

/-- The number of a token without a point. -/
def natural? (text : String) : Option Nat :=
  let digits := plainDigits text
  if digits.isEmpty || !digits.all isAsciiDigit then none else some (readDigits digits)

/-- The number of a token. -/
def ofToken? (token : String) : Option PlainNumber :=
  match cutAt '.' (plainDigits token) with
  | (whole, none) =>
    if whole.isEmpty || !whole.all isAsciiDigit then none else some ⟨readDigits whole, []⟩
  | (whole, some fraction) =>
    if whole.isEmpty || !whole.all isAsciiDigit || fraction.isEmpty || !fraction.all isAsciiDigit
    then none else some ⟨readDigits whole, fraction⟩

/-- The sixtieths of the next smaller unit that the fraction amounts to. -/
def sixtieths (number : PlainNumber) : Nat :=
  60 * readDigits number.fraction / Nat.pow 10 number.fraction.length

/-- Whether something stands behind the point. -/
def hasFraction (number : PlainNumber) : Bool := readDigits number.fraction != 0

/-- The fraction in microseconds; further digits are cut off. -/
def microseconds (number : PlainNumber) : Nat :=
  readDigits ((number.fraction ++ List.replicate 6 '0').take 6)

end PlainNumber

/-! ### Drafts -/

/-- What has been read of a date and time: the numbers for year, month and day in the order of the
text, the places of the year and the month among them where these are certain, whether a number was
written with more than two digits, the clock, the day of the week, the name of the time zone, and
the offset from universal time in seconds. -/
structure Draft where
  numbers : List Nat := []
  yearAt : Option Nat := none
  monthAt : Option Nat := none
  fullYear : Bool := false
  hour : Option Nat := none
  minute : Option Nat := none
  second : Option Nat := none
  microsecond : Option Nat := none
  weekday : Option Nat := none
  zone : Option String := none
  offset : Option Int := none
deriving Repr

namespace Draft

open CalendarWord

/-- Adds a number that is certainly the year. -/
def addYear? (draft : Draft) (year : Nat) : Option Draft :=
  if draft.yearAt.isSome then none
  else some { draft with numbers := draft.numbers ++ [year], yearAt := some draft.numbers.length }

/-- Adds a number that is certainly the month. -/
def addMonth? (draft : Draft) (month : Nat) : Option Draft :=
  if draft.monthAt.isSome then none
  else some { draft with numbers := draft.numbers ++ [month], monthAt := some draft.numbers.length }

/-- Adds a number; more than two digits make it the year. -/
def addDigits? (draft : Draft) (text : String) : Option Draft := do
  let value ← PlainNumber.natural? text
  if 2 < text.length then addYear? { draft with fullYear := true } value
  else some { draft with numbers := draft.numbers ++ [value] }

/-- Adds a number; more than a hundred makes it the year. -/
def addNumber? (draft : Draft) (number : PlainNumber) : Option Draft :=
  if 100 < number.whole ∨ (number.whole = 100 ∧ number.hasFraction) then
    addYear? { draft with fullYear := true } number.whole
  else some { draft with numbers := draft.numbers ++ [number.whole] }

/-- Adds a month name or a number. -/
def addMonthOrDigits? (draft : Draft) (text : String) : Option Draft :=
  match month? text with
  | some month => addMonth? draft month
  | none => addDigits? draft text

/-- The hour on a clock of twelve hours in the given half of the day. -/
def hourInHalf (second : Bool) (hour : Nat) : Nat :=
  if second then (if hour < 12 then hour + 12 else hour) else if hour = 12 then 0 else hour

/-- Sets the seconds with their fraction. -/
def setSeconds? (draft : Draft) (text : String) : Option Draft := do
  let number ← PlainNumber.ofToken? text
  some { draft with second := some number.whole, microsecond := some number.microseconds }

/-- Sets the minute; a fraction of it gives the second. -/
def setMinutes (draft : Draft) (number : PlainNumber) : Draft :=
  { draft with minute := some number.whole
               second := if number.hasFraction then some number.sixtieths else none }

/-- Sets a part of the clock. -/
def setPart? (draft : Draft) (part : ClockPart) (text : String) (number : PlainNumber) :
    Option Draft :=
  match part with
  | .hour =>
    let timed := { draft with hour := some number.whole }
    some (if number.hasFraction then { timed with minute := some number.sixtieths } else timed)
  | .minute => some (draft.setMinutes number)
  | .second => draft.setSeconds? text

/-- The part after a part. -/
def nextPart? : ClockPart → Option ClockPart
  | .hour => some .minute
  | .minute => some .second
  | .second => none

/-- The part of the clock that a number is and how many of the tokens behind it name the part: the
name follows, perhaps behind a blank, or the name of the part before stands in front. -/
def partOf? (before after : List String) : Option (Option ClockPart × Nat) :=
  match after.head?.bind part? with
  | some part => some (some part, 1)
  | none =>
    match (match after with
      | " " :: word :: _ => part? word
      | _ => none) with
    | some part => some (some part, 2)
    | none =>
      match before.head?.bind part? with
      | some part => some (nextPart? part, 0)
      | none =>
        match before, after with
        | " " :: word :: _, [] => (part? word).map fun part => (nextPart? part, 0)
        | _, _ => none

/-- Whether a number may be the day of the month. -/
def couldBeDay (draft : Draft) (number : PlainNumber) : Bool :=
  let month? := draft.monthAt.bind (draft.numbers[·]?)
  let year? := draft.yearAt.bind (draft.numbers[·]?)
  let last := match month? with
    | none => 31
    | some month => Date.daysInMonth (year?.getD 2000) month
  decide (1 ≤ number.whole) && (decide (number.whole < last) ||
    (decide (number.whole = last) && !number.hasFraction))

/-- Part of a text. -/
def slice (text : String) (start size : Nat) : String :=
  String.ofList ((text.toList.drop start).take size)

/-- The rest of a text. -/
def tail (text : String) (start : Nat) : String := String.ofList (text.toList.drop start)

/-- A number that begins a date with separators: up to two more numbers or a month name follow. -/
def separated? (draft : Draft) (token mark : String) (after : List String) :
    Option (Draft × List String) := do
  let draft ← draft.addDigits? token
  match after with
  | [] => some (draft, [])
  | next :: rest =>
    if isFiller next then some (draft, next :: rest)
    else
      let draft ← draft.addMonthOrDigits? next
      match rest with
      | other :: more =>
        if other = mark then
          match more with
          | third :: last => (draft.addMonthOrDigits? third).map fun done => (done, last)
          | [] => none
        else some (draft, rest)
      | [] => some (draft, [])

/-- A clock behind its hour and first colon. -/
def clock? (draft : Draft) (hour : Nat) (minutes : String) (rest : List String) :
    Option (Draft × List String) := do
  let number ← PlainNumber.ofToken? minutes
  let timed := { draft with hour := some hour }.setMinutes number
  match rest with
  | ":" :: seconds :: more => (timed.setSeconds? seconds).map fun done => (done, more)
  | _ => some (timed, rest)

/-- A number that no separator, name or clock explains. -/
def loneNumber? (draft : Draft) (number : PlainNumber) (after : List String) :
    Option (Draft × List String) :=
  match after with
  | [] => (draft.addNumber? number).map fun done => (done, [])
  | next :: rest =>
    if isFiller next then
      match rest.head?.bind half? with
      | some second =>
        some ({ draft with hour := some (hourInHalf second number.whole) }, rest.tail)
      | none => (draft.addNumber? number).map fun done => (done, rest)
    else match half? next with
      | some second =>
        if number.whole < 24 then
          some ({ draft with hour := some (hourInHalf second number.whole) }, rest)
        else if draft.couldBeDay number then (draft.addNumber? number).map fun done => (done, after)
        else none
      | none =>
        if draft.couldBeDay number then (draft.addNumber? number).map fun done => (done, after)
        else none

/-- A clock in two or four digits. -/
def shortClock? (draft : Draft) (token : String) : Option Draft := do
  let timed := { draft with hour := some (← PlainNumber.natural? (slice token 0 2)) }
  if token.length = 4 then
    some { timed with minute := some (← PlainNumber.natural? (tail token 2)) }
  else some timed

/-- Six digits, perhaps with a fraction behind them: a date when none has been
read, else a clock. -/
def sixDigits? (draft : Draft) (token : String) : Option Draft := do
  if draft.numbers.isEmpty ∧ !token.contains '.' then
    (← (← draft.addDigits? (slice token 0 2)).addDigits? (slice token 2 2)).addDigits?
      (tail token 4)
  else
    let hour ← PlainNumber.natural? (slice token 0 2)
    let minute ← PlainNumber.natural? (slice token 2 2)
    setSeconds? { draft with hour := some hour, minute := some minute } (tail token 4)

/-- A date in eight digits, which a clock may follow in four or six. -/
def longDate? (draft : Draft) (token : String) : Option Draft := do
  let year ← PlainNumber.natural? (slice token 0 4)
  let dated ← addYear? { draft with fullYear := true } year
  let dated ← (← dated.addDigits? (slice token 4 2)).addDigits? (slice token 6 2)
  if token.length = 8 then some dated
  else
    let hour ← PlainNumber.natural? (slice token 8 2)
    let minute ← PlainNumber.natural? (slice token 10 2)
    let timed := { dated with hour := some hour, minute := some minute }
    if token.length = 12 then some timed
    else some { timed with second := some (← PlainNumber.natural? (tail token 12)) }

/-- What the length of a run of digits, in its place, tells that it holds. -/
def packed? (draft : Draft) (token : String) (after : List String) : Option (Option Draft) :=
  let size := token.length
  let endsClock : Bool := match after.head? with
    | none => true
    | some next => next != ":" && (part? next).isNone
  if draft.numbers.length = 3 ∧ (size = 2 ∨ size = 4) ∧ draft.hour.isNone ∧ endsClock then
    some (draft.shortClock? token)
  else if size = 6 ∨ (6 < size ∧ (token.toList.takeWhile (· != '.')).length = 6) then
    some (draft.sixDigits? token)
  else if size = 8 ∨ size = 12 ∨ size = 14 then some (draft.longDate? token)
  else none

/-- The step at a number. -/
def stepNumber? (draft : Draft) (before : List String) (token : String) (number : PlainNumber)
    (after : List String) : Option (Draft × List String) :=
  match draft.packed? token after with
  | some held => held.map fun done => (done, after)
  | none =>
    match partOf? before after with
    | some (some part, used) =>
      (draft.setPart? part token number).map fun done => (done, after.drop used)
    | some (none, used) => some (draft, after.drop used)
    | none =>
      match after with
      | ":" :: minutes :: rest => draft.clock? number.whole minutes rest
      | mark :: rest =>
        if mark = "-" ∨ mark = "/" ∨ mark = "." then draft.separated? token mark rest
        else draft.loneNumber? number after
      | [] => draft.loneNumber? number after

/-- The step at a month name: a day and a year may be joined to it. -/
def stepMonth? (draft : Draft) (month : Nat) (after : List String) :
    Option (Draft × List String) := do
  let draft ← draft.addMonth? month
  match after with
  | mark :: rest =>
    if mark = "-" ∨ mark = "/" then
      match rest with
      | number :: more =>
        let draft ← draft.addDigits? number
        match more with
        | other :: year :: last =>
          if other = mark then (draft.addDigits? year).map fun done => (done, last)
          else some (draft, more)
        | other :: [] => if other = mark then none else some (draft, more)
        | [] => some (draft, more)
      | [] => none
    else match after with
      | " " :: word :: " " :: number :: last =>
        if small word = "of" then
          match PlainNumber.natural? number with
          | some year => (draft.addYear? year).map fun done => (done, last)
          | none => some (draft, last)
        else some (draft, after)
      | _ => some (draft, after)
  | [] => some (draft, [])

/-- Whether a token can be the name of a time zone in its place. -/
def couldBeZone (draft : Draft) (token : String) : Bool :=
  draft.hour.isSome && draft.zone.isNone && draft.offset.isNone && decide (token.length ≤ 5) &&
    (token.toList.all Char.isUpper || isUniversal token)

/-- The step at the name of a time zone. A sign directly behind it tells how far universal
time is ahead of the zone. -/
def stepZone (draft : Draft) (token : String) (after : List String) : Draft × List String :=
  match after with
  | "+" :: rest =>
    ({ draft with zone := if isUniversal token then none else some token }, "-" :: rest)
  | "-" :: rest =>
    ({ draft with zone := if isUniversal token then none else some token }, "+" :: rest)
  | _ =>
    ({ draft with zone := some token, offset := if isUniversal token then some 0 else none }, after)

/-- The name of a zone between brackets behind an offset. -/
def dropBracketedZone (draft : Draft) (after : List String) : Draft × List String :=
  match after with
  | blank :: "(" :: name :: ")" :: rest =>
    if isFiller blank && decide (3 ≤ name.length) &&
      ({ draft with offset := none }).couldBeZone name then
      ({ draft with zone := some name }, rest)
    else (draft, after)
  | _ => (draft, after)

/-- The step at the sign of an offset: hours and minutes in four digits or
around a colon, or hours alone. -/
def stepOffset? (draft : Draft) (negative : Bool) (after : List String) :
    Option (Draft × List String) := do
  let (digits, rest) ← match after with
    | digits :: rest => some (digits, rest)
    | [] => none
  let (hours, minutes, rest) ←
    if digits.length = 4 then do
      some (← PlainNumber.natural? (slice digits 0 2), ← PlainNumber.natural? (tail digits 2), rest)
    else match rest with
      | ":" :: minutes :: more => do
        some (← PlainNumber.natural? digits, ← PlainNumber.natural? minutes, more)
      | ":" :: [] => none
      | _ =>
        if digits.length ≤ 2 then do some (← PlainNumber.natural? digits, 0, rest) else none
  let size : Int := (hours * 3600 + minutes * 60 : Nat)
  some (dropBracketedZone { draft with offset := some (if negative then -size else size) } rest)

/-- One step: the draft with the meaning of a token, and the tokens that are left. -/
def step? (draft : Draft) (before : List String) (token : String) (after : List String) :
    Option (Draft × List String) :=
  match PlainNumber.ofToken? token with
  | some number => draft.stepNumber? before token number after
  | none =>
    match weekday? token with
    | some day => some ({ draft with weekday := some day }, after)
    | none =>
      match month? token with
      | some month => draft.stepMonth? month after
      | none =>
        match half? token with
        | some second =>
          match draft.hour with
          | some hour =>
            if hour ≤ 12 then some ({ draft with hour := some (hourInHalf second hour) }, after)
            else none
          | none => none
        | none =>
          if draft.couldBeZone token then some (draft.stepZone token after)
          else if draft.hour.isSome ∧ (token = "+" ∨ token = "-") then
            draft.stepOffset? (token = "-") after
          else if isFiller token then some (draft, after)
          else none

/-- Reads the tokens behind those already read, at most as many steps as `fuel`. -/
def readFrom? : Nat → List String → List String → Draft → Option Draft
  | _, _, [], draft => some draft
  | 0, _, _, _ => none
  | fuel + 1, before, token :: after, draft => do
    let (draft, rest) ← draft.step? before token after
    let used := (after.take (after.length - rest.length)).reverse
    readFrom? fuel (used ++ token :: before) rest draft

/-- The draft of a whole text. -/
def ofTokens? (tokens : List String) : Option Draft :=
  readFrom? tokens.length [] tokens {}

/-! ### The finished date and time -/

/-- Year, month and day, where they are known. -/
structure Civil where
  year : Option Nat
  month : Option Nat
  day : Option Nat
deriving DecidableEq, Repr

/-- Year, month and day of three numbers. -/
def threeNumbers (draft : Draft) (a b c : Nat) : Civil :=
  match draft.yearAt, draft.monthAt with
  | some year, some month =>
    let numbers := [a, b, c]
    ⟨numbers[year]?, numbers[month]?, numbers[3 - year - month]?⟩
  | _, some 0 => if 31 < b then ⟨b, a, c⟩ else ⟨c, a, b⟩
  | _, some 1 => if 31 < a then ⟨a, b, c⟩ else ⟨c, b, a⟩
  | _, some _ => if 31 < b then ⟨b, c, a⟩ else ⟨a, c, b⟩
  | yearAt, none =>
    if 31 < a ∨ yearAt = some 0 then ⟨a, b, c⟩
    else if 12 < a then ⟨c, b, a⟩
    else ⟨c, a, b⟩

/-- Which of the numbers is the year, the month and the day. -/
def civil? (draft : Draft) : Option Civil :=
  match draft.numbers with
  | [] => some ⟨none, none, none⟩
  | [a] =>
    if draft.monthAt.isSome then some ⟨none, a, none⟩
    else if draft.yearAt.isSome ∨ 31 < a then some ⟨a, none, none⟩
    else some ⟨none, none, a⟩
  | [a, b] =>
    match draft.yearAt, draft.monthAt with
    | some year, some month => some ⟨[a, b][year]?, [a, b][month]?, none⟩
    | _, some month =>
      let named := if month = 0 then a else b
      let other := if month = 0 then b else a
      some (if 31 < other then ⟨other, named, none⟩ else ⟨none, named, other⟩)
    | _, none =>
      some (if 31 < a then ⟨a, b, none⟩
        else if 31 < b then ⟨b, a, none⟩
        else ⟨none, a, b⟩)
  | [a, b, c] => some (draft.threeNumbers a b c)
  | _ => none

/-- Two digits stand for a year from 1976 to 2075. -/
def completeYear (draft : Draft) (year : Nat) : Nat :=
  if 100 ≤ year ∨ draft.fullYear then year else if year < 76 then 2000 + year else 1900 + year

/-- The offset from universal time in microseconds; zone names other than those of
universal time stand for nothing. -/
def zoneOffset? (draft : Draft) : Option Int :=
  if draft.zone.any isUniversal then some 0 else draft.offset.map (· * 1000000)

/-- The first day from a date on that falls on a day of the week. -/
def Civil.onWeekday (date : Date) (weekday : Nat) : Date :=
  Date.ofDayNumber (date.dayNumber + ((weekday + 7 - date.weekday) % 7 : Nat))

/-- The date and time of a draft; what it leaves open is taken from the first of January of the
given year, at midnight. -/
def toDatetime? (draft : Draft) (yearIfOpen : Nat) : Option Datetime := do
  let civil ← draft.civil?
  let year := (civil.year.map draft.completeYear).getD yearIfOpen
  let date : Date := ⟨year, civil.month.getD 1, civil.day.getD 1⟩
  let offset := draft.zoneOffset?
  let time : Time :=
    ⟨draft.hour.getD 0, draft.minute.getD 0, draft.second.getD 0, draft.microsecond.getD 0, offset⟩
  let offsetFits := offset.all fun size => decide (size.natAbs < Datetime.microsecondsPerDay)
  if date.isValid && time.isValid && offsetFits then
    match draft.weekday, civil.day with
    | some weekday, none => some ⟨Civil.onWeekday date weekday, time⟩
    | _, _ => some ⟨date, time⟩
  else none

end Draft

end QueryDesk
