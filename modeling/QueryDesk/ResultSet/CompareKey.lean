/-
**The keys by which rows are matched.**

* `CompareKey` — several columns together, or one column that is unique by itself.
* `CompareKey.isAvailable`, `firstAvailable?` — whether all columns of a key are there, and the
  first key of a list of which this holds.
* `CompareKey.reading`, `CompareKey.toValue` — from data and back.
-/

import QueryDesk.Model.Reading

namespace QueryDesk

/-- Where a key of several columns comes from. -/
inductive KeyOrigin where
  /-- The primary key of a table. -/
  | primary
  /-- A choice of the caller. -/
  | custom
deriving DecidableEq, Repr

/-- The word for an origin. -/
def KeyOrigin.word : KeyOrigin → String
  | .primary => "primary"
  | .custom => "custom"

/-- A key by which rows are matched. -/
inductive CompareKey where
  /-- Several columns together. -/
  | composite (origin : KeyOrigin) (names : List String)
  /-- One unique column. -/
  | unique (name : String)
deriving DecidableEq, Repr

namespace CompareKey

/-- The columns of a key. -/
def columns : CompareKey → List String
  | .composite _ names => names
  | .unique name => [name]

/-- Whether all columns of a key are among the given ones. -/
def isAvailable (names : List String) (key : CompareKey) : Bool := key.columns.all names.contains

/-- The first key whose columns are all there. -/
def firstAvailable? (names : List String) (keys : List CompareKey) : Option CompareKey :=
  keys.find? (isAvailable names)

open Checked

/-- A key of several columns from the fields of a record. -/
def compositeOfFields (origin : KeyOrigin) (fields : Fields) : Checked CompareKey :=
  map (composite origin) (fields.required ["names"] (Reading.items Reading.text))

/-- A key of one column from the fields of a record. -/
def uniqueOfFields (fields : Fields) : Checked CompareKey :=
  map unique (fields.required ["name"] Reading.text)

/-- Reads a key; the field `kind` tells which sort it is of. -/
def reading : Reading CompareKey
  | .dict fields =>
    match Value.lookup? "kind" fields with
    | none => refuse .tagNotFound
    | some (.text "primary") => under "primary" (compositeOfFields .primary fields)
    | some (.text "custom") => under "custom" (compositeOfFields .custom fields)
    | some (.text "uniq") => under "uniq" (uniqueOfFields fields)
    | some _ => refuse .tagInvalid
  | _ => refuse .attributesType

/-- Reads an origin. -/
def originReading : Reading KeyOrigin
  | .text "primary" => .good .primary
  | .text "custom" => .good .custom
  | _ => refuse .notLiteral

/-- Reads a key of several columns. -/
def compositeReading : Reading CompareKey :=
  Reading.record fun fields =>
    composite <$> fields.required ["kind"] originReading <*>
      fields.required ["names"] (Reading.items Reading.text)

/-- Reads the word for a unique column. -/
def uniqueWord : Reading Unit
  | .text "uniq" => .good ()
  | _ => refuse .notLiteral

/-- Reads a key of one column. -/
def uniqueReading : Reading CompareKey :=
  Reading.record fun fields =>
    (fun (_ : Unit) name => unique name) <$> fields.required ["kind"] uniqueWord <*>
      fields.required ["name"] Reading.text

/-- A key as data. -/
def toValue : CompareKey → Value
  | .composite origin names =>
    .record [("kind", .text origin.word), ("names", .list (names.map .text))]
  | .unique name => .record [("kind", .text "uniq"), ("name", .text name)]

end CompareKey

end QueryDesk
