/-
**The types of columns, independent of any one database.**

* `ColumnType` — the types; `name` and `ofName?` lead to their names and back.
* `isTextLike`, `isNumericLike`, … — the groups of types that are converted alike.
-/

namespace QueryDesk

/-- A column type. -/
inductive ColumnType where
  | text
  | varchar
  | char
  | uuid
  | enumeration
  | smallint
  | integer
  | bigint
  | decimal
  | numeric
  | real
  | float
  | double
  | boolean
  | date
  | timestamp
  | timestampWithTimeZone
  | time
  | timeWithTimeZone
  | json
  | binary
  | unknown
deriving DecidableEq, Repr, Inhabited

namespace ColumnType

/-- All types. -/
def all : List ColumnType :=
  [.text, .varchar, .char, .uuid, .enumeration, .smallint, .integer, .bigint, .decimal, .numeric,
    .real, .float, .double, .boolean, .date, .timestamp, .timestampWithTimeZone, .time,
    .timeWithTimeZone, .json, .binary, .unknown]

/-- The name of a type. -/
def name : ColumnType → String
  | .text => "text"
  | .varchar => "varchar"
  | .char => "char"
  | .uuid => "uuid"
  | .enumeration => "enum"
  | .smallint => "smallint"
  | .integer => "integer"
  | .bigint => "bigint"
  | .decimal => "decimal"
  | .numeric => "numeric"
  | .real => "real"
  | .float => "float"
  | .double => "double"
  | .boolean => "boolean"
  | .date => "date"
  | .timestamp => "timestamp"
  | .timestampWithTimeZone => "timestamp with time zone"
  | .time => "time"
  | .timeWithTimeZone => "time with time zone"
  | .json => "json"
  | .binary => "binary"
  | .unknown => "unknown"

/-- The type of a name. -/
def ofName? (word : String) : Option ColumnType := all.find? fun type => type.name == word

/-- Texts, identifiers and enumerations. -/
def isTextLike (type : ColumnType) : Bool :=
  [text, varchar, char, uuid, enumeration].contains type

/-- Whole, decimal and floating numbers. -/
def isNumericLike (type : ColumnType) : Bool :=
  [smallint, integer, bigint, decimal, numeric, real, float, double].contains type

/-- Truth values. -/
def isBooleanLike (type : ColumnType) : Bool := type == boolean

/-- Dates and points in time. -/
def isDatetimeLike (type : ColumnType) : Bool :=
  [date, timestamp, timestampWithTimeZone].contains type

/-- Times of day. -/
def isTimeLike (type : ColumnType) : Bool := [time, timeWithTimeZone].contains type

/-- Dates, points in time and times of day. -/
def isTemporal (type : ColumnType) : Bool := type.isDatetimeLike || type.isTimeLike

end ColumnType

end QueryDesk
