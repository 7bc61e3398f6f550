/-
**Dates and times in the international notation.**

* `Date.toIso`, `Time.toIso`, `Datetime.toIso` — `2024-01-31`, `10:30:00.500000+05:30` and the two
  joined by a separator; the fraction has six digits and is left out when it is zero.
* `Time.ofIso?` — the spellings of a time of day with colons everywhere or nowhere, a fraction after
  a point or a comma, and an offset.
* `Date.ofIso?`, `Datetime.ofIso?` — the texts `toIso` writes.
-/

import QueryDesk.Calendar.Basic
import QueryDesk.Text.Basic

namespace QueryDesk

open Text

/-- An offset: sign, hours and minutes, then seconds and their fraction where there are any. -/
def offsetToIso (offset : Int) : String :=
  let size := offset.natAbs
  let seconds := size / 1000000
  let fraction := size % 1000000
  (if offset < 0 then "-" else "+") ++ padded 2 (seconds / 3600) ++ ":" ++
    padded 2 (seconds / 60 % 60) ++
    (if seconds % 60 = 0 ∧ fraction = 0 then "" else ":" ++ padded 2 (seconds % 60)) ++
    (if fraction = 0 then "" else "." ++ padded 6 fraction)

namespace Date

/-- Year, month and day. -/
def toIso (date : Date) : String :=
  padded 4 date.year ++ "-" ++ padded 2 date.month ++ "-" ++ padded 2 date.day

/-- Reads year, month and day. -/
def ofIso? (text : List Char) : Option Date :=
  match text with
  | [a, b, c, d, '-', e, f, '-', g, h] =>
    if [a, b, c, d, e, f, g, h].all isAsciiDigit then
      let date : Date := ⟨readDigits [a, b, c, d], readDigits [e, f], readDigits [g, h]⟩
      if date.isValid then some date else none
    else none
  | _ => none

end Date

namespace Time

/-- Hour, minute, second, the fraction where there is one, and the offset. -/
def toIso (time : Time) : String :=
  padded 2 time.hour ++ ":" ++ padded 2 time.minute ++ ":" ++ padded 2 time.second ++
    (if time.microsecond = 0 then "" else "." ++ padded 6 time.microsecond) ++
    (match time.offset with
     | some offset => offsetToIso offset
     | none => "")

/-- Two digits and what follows them. -/
def twoDigits? : List Char → Option (Nat × List Char)
  | a :: b :: rest =>
    if isAsciiDigit a && isAsciiDigit b then some (readDigits [a, b], rest) else none
  | _ => none

/-- A clock reading: hour, minute and second, the later ones zero where they are missing, the
fraction of a second in microseconds, and whether the whole text was used up by it. -/
structure Reading where
  parts : List Nat
  microsecond : Nat
  complete : Bool

/-- A fraction of a second: up to six digits count, further ones are passed over. At most `size`
characters belong to it. -/
def fraction? (parts : List Nat) (text : List Char) (size : Nat) : Option Reading :=
  let counted := text.take (min size 6)
  if counted.length = min size 6 ∧ counted.all isAsciiDigit then
    some ⟨parts, readDigits ((counted ++ List.replicate 6 '0').take 6),
      ((text.drop counted.length).dropWhile isAsciiDigit).isEmpty⟩
  else none

/-- Up to `count` more parts of a clock reading. The parts are separated by colons everywhere or
nowhere; a point, a comma, or the end of the seconds starts the fraction. `size` characters of the
text belong to the clock. -/
def clockFrom? (parts : List Nat) (colons : Option Bool) (text : List Char) (size : Nat) :
    Nat → Option Reading
  | 0 => fraction? parts text size
  | count + 1 => do
    let (part, rest) ← twoDigits? text
    let parts := parts ++ [part]
    let left := size - 2
    match rest with
    | [] => some ⟨parts, 0, true⟩
    | mark :: more =>
      let colons := colons.getD (mark == ':')
      if left ≤ 1 then some ⟨parts, 0, false⟩
      else if colons && mark == ':' then clockFrom? parts (some colons) more (left - 1) count
      else if mark = '.' ∨ mark = ',' then fraction? parts more (left - 1)
      else if colons then none
      else clockFrom? parts (some colons) rest left count

/-- Hour, minute, second and fraction from the first `size` characters of a text. -/
def clock? (text : List Char) (size : Nat) : Option Reading := clockFrom? [] none text size 3

/-- The microseconds of the clock's parts. -/
def Reading.total (reading : Reading) : Nat :=
  let part (place : Nat) : Nat := reading.parts.getD place 0
  ((part 0 * 60 + part 1) * 60 + part 2) * 1000000 + reading.microsecond

/-- Whether a character begins an offset from universal time. -/
def isOffsetMark (c : Char) : Bool := c == '+' || c == '-' || c == 'Z'

/-- An offset from universal time: the zone letter alone, or a sign and a clock;
it stays below a day. -/
def offset? (mark : Char) (text : List Char) : Option Int :=
  if mark = 'Z' then (if text.isEmpty then some 0 else none)
  else do
    let reading ← clock? text text.length
    if !reading.complete || Datetime.microsecondsPerDay ≤ reading.total then none
    else some (if mark = '-' then -(reading.total : Int) else reading.total)

/-- The time of day of a clock reading. -/
def ofReading? (reading : Reading) (offset : Option Int) : Option Time :=
  let part (place : Nat) : Nat := reading.parts.getD place 0
  let time : Time := ⟨part 0, part 1, part 2, reading.microsecond, offset⟩
  if time.isValid then some time else none

/-- A character outside ASCII takes up several places, none of which is a digit or a mark. -/
def places (c : Char) : List Char :=
  if c.toNat < 128 then [c] else List.replicate c.utf8Size '\x80'

/-- Reads a time of day; the letter T may stand in front. In front of an offset the clock
may leave something over. -/
def ofIso? (text : List Char) : Option Time := do
  let body := match text.flatMap places with
    | 'T' :: rest => rest
    | other => other
  let size := (body.takeWhile fun c => !isOffsetMark c).length
  let reading ← clock? body size
  match body.drop size with
  | [] => if reading.complete then ofReading? reading none else none
  | mark :: rest => ofReading? reading (some (← offset? mark rest))

end Time

namespace Datetime

/-- The date, a separator and the time. -/
def toIso (separator : String) (moment : Datetime) : String :=
  moment.date.toIso ++ separator ++ moment.time.toIso

/-- Reads a date and a time with one character between them, or a date alone. -/
def ofIso? (text : List Char) : Option Datetime := do
  let date ← Date.ofIso? (text.take 10)
  match text.drop 10 with
  | [] => some (ofDate date)
  | _ :: rest => (Time.ofIso? rest).map fun time => ⟨date, time⟩

end Datetime

end QueryDesk
