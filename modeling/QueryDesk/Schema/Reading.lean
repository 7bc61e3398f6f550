/-
**Databases and connections from data and back.**

* `TableColumn`, `Table`, `Schema`, `Database` and `Connection` each have a
  `reading` and a `toValue`.
-/

import QueryDesk.Schema.Basic
import QueryDesk.ResultSet.Reading

namespace QueryDesk

open Checked

namespace TableColumn

/-- Reads a column. -/
def reading : Reading TableColumn :=
  Reading.record fun fields =>
    mk <$> fields.required ["name"] Reading.text <*>
      fields.defaulted ["colType", "col_type"] .unknown ColumnType.reading <*>
      fields.defaulted ["primaryKey", "primary_key"] false Reading.truth <*>
      fields.defaulted ["uniqKey", "unique_key"] false Reading.truth <*>
      fields.defaulted ["nullable"] true Reading.truth <*>
      fields.optional ["comment"] Reading.text

/-- A column as data. -/
def toValue (style : NameStyle) (column : TableColumn) : Value :=
  .record [("name", .text column.name), (style.pick "colType" "col_type", .text column.type.name),
    (style.pick "primaryKey" "primary_key", .bool column.inPrimaryKey),
    (style.pick "uniqKey" "unique_key", .bool column.isUnique),
    ("nullable", .bool column.nullable), ("comment", textOrNull column.comment)]

end TableColumn

namespace Table

/-- Reads a table. -/
def reading : Reading Table :=
  Reading.record fun fields =>
    mk <$> fields.required ["name"] Reading.text <*> fields.optional ["comment"] Reading.text <*>
      fields.defaulted ["children"] [] (Reading.items TableColumn.reading)

/-- A table as data. -/
def toValue (style : NameStyle) (table : Table) : Value :=
  .record [("name", .text table.name), ("comment", textOrNull table.comment),
    ("children", .list (table.columns.map (TableColumn.toValue style)))]

end Table

namespace Schema

/-- Reads a schema. -/
def reading : Reading Schema :=
  Reading.record fun fields =>
    mk <$> fields.required ["name"] Reading.text <*>
      fields.defaulted ["isDefault", "is_default"] false Reading.truth <*>
      fields.defaulted ["children"] [] (Reading.items Table.reading)

/-- A schema as data. -/
def toValue (style : NameStyle) (schema : Schema) : Value :=
  .record [("name", .text schema.name),
    (style.pick "isDefault" "is_default", .bool schema.isDefault),
    ("children", .list (schema.tables.map (Table.toValue style)))]

end Schema

namespace Database

/-- Reads a database. -/
def reading : Reading Database :=
  Reading.record fun fields =>
    mk <$> fields.required ["name"] Reading.text <*>
      fields.defaulted ["children"] [] (Reading.items Schema.reading)

/-- A database as data. -/
def toValue (style : NameStyle) (database : Database) : Value :=
  .record [("name", .text database.name),
    ("children", .list (database.schemas.map (Schema.toValue style)))]

end Database

namespace Connection

/-- Reads what a connection says. -/
def reading : Reading Connection :=
  Reading.record fun fields =>
    mk <$> fields.required ["name"] Reading.text <*> fields.optional ["database"] Reading.text <*>
      fields.optional ["user"] Reading.text <*>
      fields.defaulted ["positionedParameter", "positioned_parameter"] false Reading.truth <*>
      fields.defaulted ["quote"] false Reading.truth

/-- What a connection says, as data. -/
def toValue (style : NameStyle) (connection : Connection) : Value :=
  .record [("name", .text connection.name), ("database", textOrNull connection.database),
    ("user", textOrNull connection.user),
    (style.pick "positionedParameter" "positioned_parameter", .bool connection.positioned),
    ("quote", .bool connection.quote)]

end Connection

end QueryDesk
