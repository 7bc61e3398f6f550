/-
**Databases, schemas, tables and their columns.**

* `Table.compareKeys` — the primary key of a table as one key, then one key for each unique column.
* `Schema.table?`, `Database.table?` — look-up by name whatever the case; the
  default schema is searched first.
* `Database.resetDefault` — moves the schema that a connection asks for to the front and
  makes it the only default one.
-/

import QueryDesk.ResultSet.CompareKey
import QueryDesk.ResultSet.ColumnType
import QueryDesk.Text.CaseMap

namespace QueryDesk

/-- A column of a table. -/
structure TableColumn where
  name : String
  type : ColumnType
  inPrimaryKey : Bool
  isUnique : Bool
  nullable : Bool
  comment : Option String
deriving DecidableEq, Repr

/-- A table. -/
structure Table where
  name : String
  comment : Option String
  columns : List TableColumn
deriving DecidableEq, Repr

/-- A schema. Names are looked up in the default one first. -/
structure Schema where
  name : String
  isDefault : Bool
  tables : List Table
deriving DecidableEq, Repr

/-- A database. -/
structure Database where
  name : String
  schemas : List Schema
deriving DecidableEq, Repr

/-- What a connection says about names and placeholders. -/
structure Connection where
  name : String
  database : Option String
  user : Option String
  positioned : Bool
  quote : Bool
deriving DecidableEq, Repr

namespace Table

/-- The first column of a name. -/
def column? (table : Table) (name : String) : Option TableColumn :=
  table.columns.find? fun column => column.name == name

/-- The columns of the primary key. -/
def primaryNames (table : Table) : List String :=
  (table.columns.filter TableColumn.inPrimaryKey).map TableColumn.name

/-- The primary key of a table as one key, then one key for each unique column. -/
def compareKeys (table : Table) : List CompareKey :=
  (if table.primaryNames.isEmpty then [] else [.composite .primary table.primaryNames]) ++
    (table.columns.filter TableColumn.isUnique).map fun column => .unique column.name

end Table

/-- The first table of a name, whatever the case. -/
def Schema.table? (schema : Schema) (name : String) : Option Table :=
  schema.tables.find? fun table => Text.lower table.name == Text.lower name

namespace Database

/-- The first schema with the given name and default flag, as far as they are given. -/
def schema? (database : Database) (name : Option String) (isDefault : Option Bool) :
    Option Schema :=
  database.schemas.find? fun schema =>
    (name.all (· == schema.name)) && (isDefault.all (· == schema.isDefault))

/-- The schemas with the first default one in front. -/
def searchOrder (database : Database) : List Schema :=
  match database.schemas.findIdx? Schema.isDefault with
  | none => database.schemas
  | some place => database.schemas[place]?.toList ++ database.schemas.eraseIdx place

/-- The first table of a name, whatever the case, the default schema being searched first. -/
def table? (database : Database) (name : Option String) : Option Table :=
  match name with
  | none => none
  | some word =>
    if word.isEmpty then none else database.searchOrder.findSome? fun schema => schema.table? word

/-- The names a default schema may have, in the order they are tried. -/
def defaultNames (connection : Connection) : List String :=
  (connection.database.toList ++ connection.user.toList).filter (fun name => !name.isEmpty) ++
    ["public"]

/-- The place of the schema a connection asks for: the first that bears one of its
names, else the first one. -/
def defaultPlace (connection : Connection) (schemas : List Schema) : Nat :=
  ((defaultNames connection).findSome? fun name =>
    schemas.findIdx? fun schema => schema.name == name).getD 0

/-- The schemas with the one at a place moved to the front and made the only default one. -/
def promote (place : Nat) (schemas : List Schema) : List Schema :=
  let plain := schemas.map fun schema => { schema with isDefault := false }
  match plain[place]? with
  | some chosen => { chosen with isDefault := true } :: plain.eraseIdx place
  | none => plain

/-- The database with the schema that a connection asks for as its default. -/
def resetDefault (connection : Connection) (database : Database) : Database :=
  { database with schemas := promote (defaultPlace connection database.schemas) database.schemas }

end Database

end QueryDesk
