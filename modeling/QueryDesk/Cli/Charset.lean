/-
**Sets of characters that can be printed.**

* `Charset` — all characters, those that are no halves, or those below a number.
* `Charset.firstUnprintable?` — the first run of characters in a text that cannot be printed.
* `Charset.encode` — pieces of text up to the first that cannot be printed.
* `Charset.icons` — the signs of marks that can be printed.
-/

import QueryDesk.Report.Console
import QueryDesk.Failure

namespace QueryDesk.Cli

/-- A set of characters that can be printed. -/
inductive Charset where
  /-- All characters, halves included: nothing is encoded. -/
  | all
  /-- All characters that are no halves. -/
  | whole
  /-- The characters whose numbers are below `size`. -/
  | below (name : String) (size : Nat)
deriving DecidableEq, Repr

namespace Charset

/-- The set of a name; names that are not known stand for all characters. -/
def ofName (name : String) : Charset :=
  if ["ascii", "us-ascii", "646"].contains name then .below "ascii" 128
  else if
    ["latin-1", "latin1", "latin_1", "iso-8859-1", "iso8859-1", "8859", "l1"].contains name then
    .below "latin-1" 256
  else if ["utf-8", "utf8", "utf_8", "u8"].contains name then .whole
  else .all

/-- Whether a character can be printed. -/
def holds (charset : Charset) (c : Char) : Bool :=
  match charset with
  | .all => true
  | .whole => !Text.isHalf c
  | .below _ size => decide (c.toNat < size)

/-- The first characters of a text that cannot be printed, with their place. -/
def firstUnprintable? (charset : Charset) (text : List Char) : Option (List Char × Nat) :=
  match text.dropWhile charset.holds with
  | [] => none
  | rest =>
    some (rest.takeWhile fun c => !charset.holds c, (text.takeWhile charset.holds).length)

/-- Succeeds when all characters of a text can be printed. -/
def check (charset : Charset) (text : String) : Except Failure Unit :=
  match charset, charset.firstUnprintable? text.toList with
  | .whole, some (characters, place) =>
    .error (.unprintable "utf-8" "surrogates not allowed" characters place)
  | .below name size, some (characters, place) =>
    .error (.unprintable name ("ordinal not in range(" ++ toString size ++ ")") characters place)
  | _, _ => .ok ()

/-- The text of several pieces up to the first that cannot be printed, and why that one cannot. -/
def encode (charset : Charset) : List String → String × Option Failure
  | [] => ("", none)
  | piece :: rest =>
    match charset.check piece with
    | .error failure => ("", some failure)
    | .ok () =>
      let (text, failure) := charset.encode rest
      (piece ++ text, failure)

/-- The signs of marks: emoji if they can be printed, else words. -/
def icons (charset : Charset) : Icons :=
  let signs := String.join (MarkKind.all.map (Icons.sign .emoji))
  if signs.toList.all charset.holds then .emoji else .words

end Charset

example : (Charset.ofName "ascii").icons = .words ∧ Charset.whole.icons = .emoji := by
  decide +kernel

end QueryDesk.Cli
