/-
**Result sets from documents.**

* `Records.names` — the column names of a list of records, each in the place where it is first seen.
* `Records.entries` — a record as pairs of a name and a value. A list of texts of two
  characters is a record as well.
* `ResultSet.ofDocument` — the result set of a document: a result set written as
  data, or a list of records.
-/

import QueryDesk.ResultSet.Reading
import QueryDesk.Value.Equality

namespace QueryDesk

namespace Records

/-- What a record is gone through by: its keys, its elements or its characters. -/
def elements : Value → Except Failure (List Value)
  | .dict entries => .ok (entries.map Prod.fst)
  | .list items => .ok items
  | .text content => .ok (content.toList.map fun c => .text (String.singleton c))
  | other => .error (.notIterable other.kindName)

/-- A name behind others, unless it is there already. -/
def addNew (known : List Value) (name : Value) : Except Failure (List Value) := do
  let seen ← (Value.memberOf name known).mapError .value
  pure (if seen then known else known ++ [name])

/-- The column names of records. -/
def names (records : List Value) : Except Failure (List Value) :=
  records.foldlM (fun known record => do (← elements record).foldlM addNew known) []

/-- A text of two characters as a name and a value. -/
def pair (place : Nat) (element : Value) : Except Failure (Value × Value) :=
  match element with
  | .text content =>
    match content.toList with
    | [first, second] => .ok (.text (String.singleton first), .text (String.singleton second))
    | chars => .error (.notPair place chars.length)
  | other => .error (.notIterable other.kindName)

/-- A record as pairs of a name and a value; of a name given twice the last value counts. -/
def entries : Value → Except Failure (List (Value × Value))
  | .dict entries => .ok entries
  | record => do
    let items ← elements record
    let pairs ← items.zipIdx.mapM fun (item, place) => pair place item
    match Value.dictOf pairs with
    | .dict entries => pure entries
    | _ => pure pairs

end Records

namespace ResultSet

/-- The result set of a list of records. -/
def ofRecordList (records : List Value) (origin : Provenance) : Except Failure ResultSet := do
  let names ← Records.names records
  let keys ← names.mapM fun name =>
    (ResultKey.reading (.record [("name", name)])).orFail "RdhKey"
  ofRecords keys (← records.mapM Records.entries) origin

/-- The result set of a document. A given origin replaces the one in the document. -/
def ofDocument (path : String) (origin : Option Provenance) (document : Value) :
    Except Failure ResultSet :=
  match document with
  | .list records => ofRecordList records (origin.getD .unknown)
  | .dict entries =>
    if (Value.lookup? "keys" entries).isSome && (Value.lookup? "rows" entries).isSome then do
      let set ← (ResultSet.reading document).orFail "ResultSetData"
      pure { set with origin := origin.getD set.origin }
    else .error (.unsupportedLayout path)
  | _ => .error (.unsupportedLayout path)

end ResultSet

end QueryDesk
