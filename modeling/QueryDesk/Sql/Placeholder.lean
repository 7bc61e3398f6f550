/-
**Queries with placeholders in the places of their named parameters.**

* `Binding` — what a name stands for: one value, or an array that is spread out in place.
* `SimpleScan`, `PositionedScan` — what is gathered while the names of a query are visited one after
  another. In the simple style every occurrence is a `?` with a value of its own; in the positioned
  style every name owns one block of numbered positions, in the order the names first appear, and
  all its occurrences show the same numbers. An empty array is written as a null.
* `normalize` — the query in one of the two styles; names without a value are refused, each named
  once in the order they first appear.
-/

import QueryDesk.Sql.Template
import QueryDesk.Value.Basic
import QueryDesk.Failure

namespace QueryDesk.Sql

/-- Values by name. -/
abbrev Binds := List (String × Value)

/-- How placeholders are written. -/
inductive PlaceholderStyle where
  /-- A question mark per value. -/
  | simple
  /-- A dollar sign and the number of the value. -/
  | positioned
deriving DecidableEq, Repr

/-- A query with placeholders and the values for them, in order. -/
structure BoundQuery where
  query : String
  binds : List Value
deriving Repr

/-- What a parameter's name stands for. -/
inductive Binding where
  | single (value : Value)
  | array (values : List Value)
deriving Repr

namespace Binding

/-- Lists and tuples are spread out; everything else is one value. -/
def ofValue (value : Value) : Binding :=
  match value.elements? with
  | some values => .array values
  | none => .single value

/-- The values one occurrence binds. -/
def values : Binding → List Value
  | .single value => [value]
  | .array values => values

/-- The number of values one occurrence binds. -/
def width (binding : Binding) : Nat := binding.values.length

end Binding

/-- The text in place of an empty array: the surrounding SQL stays valid. -/
def emptyArrayText : String := " null "

/-- Placeholders between commas, or the text of an empty array. -/
def placeholderList (placeholders : List String) : String :=
  if placeholders.isEmpty then emptyArrayText else ",".intercalate placeholders

/-- What a name stands for; without values every name stands for a single unknown one. -/
def bindingOf (binds : Option Binds) (name : String) : Binding :=
  match binds.bind (·.lookup name) with
  | some value => .ofValue value
  | none => .single .null

/-- Whether values are given and none of them under the name. -/
def isMissing (binds : Option Binds) (name : String) : Bool :=
  match binds with
  | none => false
  | some entries => (entries.lookup name).isNone

/-- The names found missing so far with one that is visited, each once. -/
def noteMissing (binds : Option Binds) (name : String) (missing : List String) : List String :=
  if isMissing binds name && !missing.contains name then missing ++ [name] else missing

/-- A scan of names from left to right: the text each visit gives, and the state after all. -/
def scanNames {State : Type} (visit : State → String → String × State) :
    State → List String → List String × State
  | state, [] => ([], state)
  | state, name :: rest =>
    let (text, next) := visit state name
    let (texts, last) := scanNames visit next rest
    (text :: texts, last)

/-! ### The simple style -/

/-- What a scan in the simple style has gathered: the values of the occurrences so far, and the
names without a value. -/
structure SimpleScan where
  binds : List Value
  missing : List String
deriving Repr

namespace SimpleScan

/-- Nothing is gathered yet. -/
def start : SimpleScan := ⟨[], []⟩

/-- One question mark for each of several values. -/
def text (binding : Binding) : String := placeholderList (List.replicate binding.width "?")

/-- An occurrence of a name: its text, and the scan with the values it binds. -/
def visit (binds : Option Binds) (scan : SimpleScan) (name : String) : String × SimpleScan :=
  let missing := noteMissing binds name scan.missing
  match binds.bind (·.lookup name) with
  | some value => (text (.ofValue value), ⟨scan.binds ++ (Binding.ofValue value).values, missing⟩)
  | none => ("?", ⟨scan.binds, missing⟩)

end SimpleScan

/-! ### The positioned style -/

/-- The positions a name owns: as many as it binds values, from `first` on. -/
structure Block where
  first : Nat
  binding : Binding
deriving Repr

namespace Block

/-- The block behind the position that was given away last; an empty array takes none. -/
def behind (position : Nat) (binding : Binding) : Block :=
  ⟨if binding.width = 0 then position else position + 1, binding⟩

/-- The positions of a block. -/
def positions (block : Block) : List Nat := (List.range block.binding.width).map (block.first + ·)

/-- Numbered placeholders for positions. -/
def numbered (positions : List Nat) : String :=
  placeholderList (positions.map fun place => "$" ++ toString place)

/-- The text of every occurrence of the block's name. -/
def text (block : Block) : String := numbered block.positions

/-- Values put into neighbouring places of a list. -/
def putFrom : Nat → List Value → List Value → List Value
  | _, [], slots => slots
  | place, value :: rest, slots => putFrom (place + 1) rest (slots.set place value)

/-- The values of a block put into its positions. -/
def fill (slots : List Value) (block : Block) : List Value :=
  putFrom (block.first - 1) block.binding.values slots

end Block

/-- What a scan in the positioned style has gathered: the position given away last, the blocks of
the names so far in the order the names first appear, and the names without a value. -/
structure PositionedScan where
  position : Nat
  layout : List (String × Block)
  missing : List String
deriving Repr

namespace PositionedScan

/-- Nothing is gathered yet. -/
def start : PositionedScan := ⟨0, [], []⟩

/-- An occurrence of a name: its text, and the scan, where a new name has got its block. -/
def visit (binds : Option Binds) (scan : PositionedScan) (name : String) :
    String × PositionedScan :=
  let missing := noteMissing binds name scan.missing
  match scan.layout.lookup name with
  | some block => (block.text, { scan with missing })
  | none =>
    let block := Block.behind scan.position (bindingOf binds name)
    (block.text, ⟨scan.position + block.binding.width, scan.layout ++ [(name, block)], missing⟩)

/-- The values in the order of their positions; without values all places stay empty. -/
def values (binds : Option Binds) (scan : PositionedScan) : List Value :=
  let blank := List.replicate scan.position .null
  if binds.isNone then blank else (scan.layout.map Prod.snd).foldl Block.fill blank

end PositionedScan

/-! ### Both styles -/

/-- A template with texts in the places of its names, unless names have no value. -/
def Template.answer (template : Template) (texts missing : List String) (binds : List Value) :
    Except Failure BoundQuery :=
  match missing with
  | [] => .ok ⟨String.ofList (template.fill (texts.map String.toList)), binds⟩
  | names => .error (.missingBinds names)

/-- A template with placeholders in the places of its names. -/
def Template.bind (style : PlaceholderStyle) (binds : Option Binds) (template : Template) :
    Except Failure BoundQuery :=
  match style with
  | .simple =>
    let (texts, scan) := scanNames (SimpleScan.visit binds) SimpleScan.start template.names
    template.answer texts scan.missing scan.binds
  | .positioned =>
    let (texts, scan) := scanNames (PositionedScan.visit binds) PositionedScan.start template.names
    template.answer texts scan.missing (scan.values binds)

/-- A query without comments, with placeholders in the places of its named parameters. -/
def normalize (style : PlaceholderStyle) (binds : Option Binds) (query : String) :
    Except Failure BoundQuery :=
  (Template.ofQuery query).bind style binds

end QueryDesk.Sql
