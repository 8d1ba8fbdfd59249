/-!
The closed set of column types that a table definition can declare, independent of any database.
-/

namespace Sqlwright

inductive ColumnType
  | int | tinyint | smallint | mediumint | bigint
  | char | varchar | text | mediumtext | longtext
  | decimal | float | double
  | date | datetime | timestamp | time | year
  | boolean | json | blob | longblob
  | enum | set
  | geometry | point | linestring | polygon | multipoint | multilinestring | multipolygon
  deriving DecidableEq, Repr

namespace ColumnType

def name : ColumnType → String
  | .int => "int"
  | .tinyint => "tinyint"
  | .smallint => "smallint"
  | .mediumint => "mediumint"
  | .bigint => "bigint"
  | .char => "char"
  | .varchar => "varchar"
  | .text => "text"
  | .mediumtext => "mediumtext"
  | .longtext => "longtext"
  | .decimal => "decimal"
  | .float => "float"
  | .double => "double"
  | .date => "date"
  | .datetime => "datetime"
  | .timestamp => "timestamp"
  | .time => "time"
  | .year => "year"
  | .boolean => "boolean"
  | .json => "json"
  | .blob => "blob"
  | .longblob => "longblob"
  | .enum => "enum"
  | .set => "set"
  | .geometry => "geometry"
  | .point => "point"
  | .linestring => "linestring"
  | .polygon => "polygon"
  | .multipoint => "multipoint"
  | .multilinestring => "multilinestring"
  | .multipolygon => "multipolygon"

def all : List ColumnType :=
  [.int, .tinyint, .smallint, .mediumint, .bigint, .char, .varchar, .text, .mediumtext, .longtext,
    .decimal, .float, .double, .date, .datetime, .timestamp, .time, .year, .boolean, .json, .blob,
    .longblob, .enum, .set, .geometry, .point, .linestring, .polygon, .multipoint,
    .multilinestring, .multipolygon]

def ofName? (word : String) : Option ColumnType := all.find? (·.name = word)

def isInteger : ColumnType → Bool
  | .int | .tinyint | .smallint | .mediumint | .bigint => true
  | _ => false

def isSpatial : ColumnType → Bool
  | .geometry | .point | .linestring | .polygon | .multipoint | .multilinestring
  | .multipolygon => true
  | _ => false

theorem mem_all (t : ColumnType) : t ∈ all := by cases t <;> decide

/-- Every type is found under its own word. -/
theorem ofName?_name (t : ColumnType) : ofName? t.name = some t := by cases t <;> decide

end ColumnType

end Sqlwright
