/-
**The kind of a column of cells.**

* `Csv.infer` — the kind that the cells ask for: whole numbers, doubles, truth values, or texts.
  Whole numbers with missing cells among them are held as doubles.
* `Csv.CellKind`, `Csv.readAs` — a column whose kind is declared.
-/

import QueryDesk.Load.CsvCell
import QueryDesk.ResultSet.Frame

namespace QueryDesk.Csv

/-- The cells of a column, those left out that stand for nothing. -/
def present (cells : List String) : List (Option String) :=
  cells.map fun cell => if missingSpellings.contains cell then none else some cell

/-- Reads the cells that are there; the first that cannot be read decides. -/
def readPresent {ε α : Type} (read : String → Except ε α) :
    List (Option String) → Except ε (List (Option α))
  | [] => .ok []
  | none :: rest => (readPresent read rest).map (none :: ·)
  | some cell :: rest => do
    let value ← read cell
    return some value :: (← readPresent read rest)

/-- Reads the cells that are there, if all of them can be read. -/
def presentAs? {α : Type} (read : String → Option α) (cells : List (Option String)) :
    Option (List (Option α)) :=
  cells.mapM fun cell =>
    match cell with
    | none => some none
    | some text => (read text).map some

/-- Doubles, not-a-number for those that are missing. -/
def doubles? (cells : List (Option String)) : Option (List Binary64) :=
  (presentAs? double? cells).map fun numbers => numbers.map fun number => number.getD .nan

/-! ### Inference -/

/-- Whole numbers as doubles, because some are missing. The smallest whole number is
the sign of a missing one. -/
def asDoubles (numbers : List (Option Int)) : List Binary64 :=
  numbers.map fun number =>
    match number with
    | none => .nan
    | some number =>
      let nearest := Binary64.ofInt number
      if nearest = .ofInt smallestInteger then .nan else nearest

/-- A column of texts. -/
def asTexts (cells : List (Option String)) : FrameColumn := .texts cells

/-- A column of doubles, truth values or texts. -/
def inferInexact (cells : List (Option String)) : FrameColumn :=
  match doubles? cells with
  | some doubles => .doubles doubles
  | none =>
    match presentAs? truth? cells with
    | some truths =>
      if truths.all Option.isSome then .truths truths
      else .values (truths.map fun truth => (truth.map Value.bool).getD .null)
    | none => asTexts cells

/-- A column with whole numbers too large to have a sign: there are no negative and no
missing ones beside them. -/
def inferUnsigned (cells : List (Option String)) : FrameColumn :=
  match readPresent unsigned? cells with
  | .error .outOfReach => asTexts cells
  | .error .malformed => inferInexact cells
  | .ok numbers =>
    match numbers.mapM Option.join with
    | some complete => .integers (complete.map fun number => some (Int.ofNat number))
    | none => asTexts cells

/-- The kind of column that cells ask for. -/
def infer (cells : List (Option String)) : FrameColumn :=
  match readPresent signed? cells with
  | .ok numbers =>
    if numbers.all Option.isSome then .integers numbers else .doubles (asDoubles numbers)
  | .error .outOfReach => inferUnsigned cells
  | .error .malformed => inferInexact cells

/-! ### Declared kinds -/

/-- A kind that a column can be read as. -/
inductive CellKind where
  | text
  | whole
  | double
  | truth
deriving DecidableEq, Repr

/-- The kind of cells of a column type; other types are inferred. -/
def cellKind? : ColumnType → Option CellKind
  | .text | .varchar | .char | .uuid | .enumeration => some .text
  | .smallint | .integer | .bigint => some .whole
  | .real | .float | .double => some .double
  | .boolean => some .truth
  | _ => none

/-- Numbers as whole numbers: exactly where all are written as such, otherwise by their doubles. -/
def wholeNumbers? (cells : List (Option String)) : Option (List (Option Int)) := do
  let read ← presentAs? (fun text => (quickDouble? text).map fun found => (text, found)) cells
  let allWhole := read.all fun cell => cell.all fun (_, _, whole) => whole
  read.mapM fun cell => match cell with
    | none => some none
    | some (text, number, _) => do
      let value ← if allWhole then (signed? text).toOption else number.toInt?
      if smallestInteger ≤ value ∧ value ≤ largestSigned then some (some value) else none

/-- Truth values as doubles, for a column of doubles that holds nothing else. -/
def truthsAsDoubles? : FrameColumn → Option FrameColumn
  | .truths truths => some (.doubles (truths.map ofTruth))
  | .values values => (values.mapM ofValue?).map .doubles
  | _ => none
where
  /-- One for true, zero for false. -/
  ofTruth (truth : Option Bool) : Binary64 :=
    match truth with
    | some true => .ofInt 1
    | some false => .ofInt 0
    | none => .nan
  /-- The double of a truth value or of nothing. -/
  ofValue? (value : Value) : Option Binary64 :=
    match value with
    | .bool truth => some (ofTruth (some truth))
    | .null => some .nan
    | _ => none

/-- A column of a declared kind, if its cells allow that. -/
def readAs (kind : CellKind) (cells : List (Option String)) : Option FrameColumn :=
  match kind with
  | .text => some (asTexts cells)
  | .whole => (wholeNumbers? cells).map .integers
  | .truth => (presentAs? declaredTruth? cells).map .truths
  | .double =>
    match doubles? cells with
    | some doubles => some (.doubles doubles)
    | none => truthsAsDoubles? (infer cells)

end QueryDesk.Csv
