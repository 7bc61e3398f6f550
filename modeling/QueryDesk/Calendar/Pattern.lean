/-
**Texts whose numbers all stand for parts of the date and time they spell.**

* `Pattern.isRegular` — whether year, month and day stand in the text in their usual form, and no
  number of the text is left over.
* `Pattern.passesOverZone` — whether a regular text holds a zone name that is not in its usual form.
  Such a name is passed over like any other word.
-/

import QueryDesk.Calendar.FreeForm

namespace QueryDesk.Pattern

open Text

/-- A part of a date and time. -/
inductive Part where
  | year
  | month
  | day
  | hour
  | minute
  | second
  | microsecond
  | zone
  | weekday
  | half
deriving DecidableEq, Repr

/-- A usual form of some parts, with the width up to which a token is filled with
zeros before it is compared. -/
structure Form where
  parts : List Part
  text : String
  width : Nat

/-- The offset from universal time without a colon. -/
def offsetText (offset : Int) : String :=
  let minutes := offset.natAbs / 60000000
  (if offset < 0 then "-" else "+") ++ padded 2 (minutes / 60) ++ padded 2 (minutes % 60)

/-- The forms of a zone. -/
def zoneForms (zone : Option String) (moment : Datetime) : List Form :=
  match moment.time.offset with
  | none => []
  | some offset => [⟨[.zone], offsetText offset, 0⟩] ++
      if zone = some "UTC" ∨ offset = 0 then [⟨[.zone], "UTC", 0⟩] else []

/-- The forms of a date and time, in the order they are looked for. -/
def forms (zone : Option String) (moment : Datetime) : List Form :=
  let date := moment.date
  let time := moment.time
  let year := toString date.year
  let month := padded 2 date.month
  let day := padded 2 date.day
  let hour := padded 2 time.hour
  let minute := padded 2 time.minute
  let second := padded 2 time.second
  let monthName := CalendarWord.monthNames.getD (date.month - 1) ""
  let weekdayName := CalendarWord.weekdayNames.getD date.weekday ""
  [⟨[.year, .month, .day, .hour, .minute, .second],
      year ++ month ++ day ++ hour ++ minute ++ second, 0⟩,
    ⟨[.year, .month, .day, .hour, .minute], year ++ month ++ day ++ hour ++ minute, 0⟩,
    ⟨[.year, .month, .day, .hour], year ++ month ++ day ++ hour, 0⟩,
    ⟨[.year, .month, .day], year ++ month ++ day, 0⟩,
    ⟨[.hour, .minute, .second], hour ++ minute ++ second, 0⟩,
    ⟨[.hour, .minute], hour ++ minute, 0⟩,
    ⟨[.year], year, 0⟩,
    ⟨[.month], monthName, 0⟩,
    ⟨[.month], CalendarWord.short monthName, 0⟩,
    ⟨[.month], month, 2⟩,
    ⟨[.day], day, 2⟩,
    ⟨[.hour], hour, 2⟩,
    ⟨[.minute], minute, 2⟩,
    ⟨[.second], second, 2⟩,
    ⟨[.second, .microsecond], second ++ "." ++ padded 6 time.microsecond, 0⟩] ++
  zoneForms zone moment ++
  [⟨[.weekday], CalendarWord.short weekdayName, 0⟩,
    ⟨[.weekday], weekdayName, 0⟩,
    ⟨[.half], if time.hour < 12 then "AM" else "PM", 0⟩]

/-- A token filled with zeros up to a width; seconds with a fraction get two digits in front of the
point and six behind it. -/
def filled (width : Nat) (token : String) : String :=
  match PlainNumber.ofToken? token with
  | some number =>
    if token.contains '.' then padded 2 number.whole ++ "." ++ padded 6 number.microseconds
    else repeated '0' (width - token.length) ++ token
  | none => token

/-- A token with whether some form has been found in it. -/
abbrev Marked := String × Bool

/-- Marks the first free token in the given form; none when there is no such token. -/
def markForm? (form : Form) : List Marked → Option (List Marked)
  | [] => none
  | (token, taken) :: rest =>
    if !taken && filled form.width token == form.text then some ((token, true) :: rest)
    else (markForm? form rest).map ((token, taken) :: ·)

/-- Looks for the forms one after another; a form is skipped when one of its
parts has been found. -/
def markForms : List Form → List Marked × List Part → List Marked × List Part
  | [], found => found
  | form :: rest, (tokens, parts) =>
    if form.parts.any parts.contains then markForms rest (tokens, parts)
    else match markForm? form tokens with
      | some marked => markForms rest (marked, parts ++ form.parts)
      | none => markForms rest (tokens, parts)

/-- The tokens with the offset at their end written as one token. -/
def joinOffset (moment : Datetime) (tokens : List String) : List String :=
  match moment.time.offset with
  | none => tokens
  | some offset =>
    match tokens.reverse with
    | "Z" :: before => (offsetText offset :: before).reverse
    | [] => tokens
    | _ :: "+" :: before => (offsetText offset :: before).reverse
    | _ :: "-" :: before => (offsetText offset :: before).reverse
    | _ :: _ :: _ :: "+" :: before => (offsetText offset :: before).reverse
    | _ :: _ :: _ :: "-" :: before => (offsetText offset :: before).reverse
    | _ => tokens

/-- Whether year, month and day are among the parts and no number is left over. -/
def isRegular (found : List Marked × List Part) : Bool :=
  [Part.year, .month, .day].all found.2.contains &&
    found.1.all fun (token, taken) => taken || (PlainNumber.ofToken? token).isNone

/-- Whether the text of these tokens, which spells a moment, is regular and names its zone in
another form than the usual ones. -/
def passesOverZone (draft : Draft) (moment : Datetime) (tokens : List String) : Bool :=
  moment.time.offset.isSome &&
    let marked := (joinOffset moment tokens).map fun token => (token, false)
    let found := markForms (forms draft.zone moment) (marked, [])
    isRegular found && !found.2.contains .zone

end QueryDesk.Pattern
