/-
**What a query tells about the origin of its result.**

* `ResultSet.learn` — the set with its statement, conditions and origin. What the caller says comes
  first, what is already known next, and what the statement and the schema tell last.
-/

import QueryDesk.Schema.Query
import QueryDesk.Sql.Grammar.Statement

namespace QueryDesk

open Sql (StatementInfo)

/-- A text that is there and not empty. -/
def presentText? (text : Option String) : Option String :=
  text.filter fun content => !content.isEmpty

/-- A list that is there and not empty. -/
def presentList? {α : Type} (list : Option (List α)) : Option (List α) :=
  list.filter fun items => !items.isEmpty

namespace Provenance

/-- The origin with what a request and its statement tell. -/
def learn (origin : Provenance) (info : StatementInfo) (hints : Option QueryHints)
    (connection : Option String) (table : Option Table) : Provenance :=
  let statementTable := presentText? ((table.map Table.name).or info.table)
  let hinted := presentText? (hints.bind QueryHints.tableName)
  let tableName := match presentText? origin.tableName with
    | some _ => hinted
    | none => hinted.or statementTable
  let comment := (presentText? (hints.bind QueryHints.comment)).or (table.bind Table.comment)
  let hintedKeys := presentList? (hints.bind QueryHints.compareKeys)
  let keys := match presentList? origin.compareKeys with
    | some _ => hintedKeys
    | none => hintedKeys.or (presentList? (table.map Table.compareKeys))
  { origin with
    connectionName := connection
    tableName := tableName.or origin.tableName
    comment := comment.or origin.comment
    type := info.type
    editable := (hints.bind QueryHints.editable).or origin.editable
    compareKeys := keys.or origin.compareKeys }

end Provenance

/-- The set with what a request and its statement tell. -/
def ResultSet.learn (set : ResultSet) (info : StatementInfo) (request : QueryRequest)
    (connection : Option String) (database : Option Database) : ResultSet :=
  let table := database.bind fun known => known.table? info.table
  { set with
    origin := set.origin.learn info request.hints connection table
    statement := some request.sql
    conditions := request.conditions }

end QueryDesk
