/-
**Queries whose parameters get their values from a document.**

* `BindDocument.binds` — the values by name of a document: an object gives a value to each of its
  names, and a null gives none to any.
* `BindDocument.check` — a document of another kind is of no use to a query with parameters.
* `normalizeWith` — a query with placeholders and the values a document gives.
-/

import QueryDesk.Sql.Placeholder

namespace QueryDesk.Sql

namespace BindDocument

/-- The entries of an object under text keys. -/
def entries (fields : List (Value × Value)) : Binds :=
  fields.filterMap fun (key, value) =>
    match key with
    | .text name => some (name, value)
    | _ => none

/-- The values by name that a document gives, `none` if it leaves them open. -/
def binds : Value → Option Binds
  | .null => none
  | .dict fields => some (entries fields)
  | _ => some []

/-- Whether an element is a text. -/
def isText (name : String) : Value → Bool
  | .text content => content == name
  | _ => false

/-- Succeeds when none of the names is found in a document that is no object: an array by its
elements, a text by its parts. Nothing can be looked up in other documents. -/
def check (document : Value) (names : List String) : Except Failure Unit :=
  if names.isEmpty then .ok ()
  else
    match document with
    | .null => .ok ()
    | .dict _ => .ok ()
    | .list items =>
      if names.any fun name => items.any (isText name) then
        .error (.notIndexedByName "list indices must be integers or slices, not str")
      else .ok ()
    | .text content =>
      if names.any fun name => Text.containsChars name.toList content.toList then
        .error (.notIndexedByName "string indices must be integers, not 'str'")
      else .ok ()
    | other => .error (.notContainer other.kindName)

end BindDocument

/-- A query without comments, with placeholders in the places of its named parameters, whose values
are those of a document. -/
def normalizeWith (style : PlaceholderStyle) (document : Value) (query : String) :
    Except Failure BoundQuery := do
  let template := Template.ofQuery query
  BindDocument.check document template.names
  template.bind style (BindDocument.binds document)

end QueryDesk.Sql
