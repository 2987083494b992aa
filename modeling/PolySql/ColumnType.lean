import PolySql.Text.Ascii

/-!
# Column types

The types that a column can have in a schema, whatever the database.

* `ColumnType` — the 28 types.
* `ColumnType.all`, `ColumnType.name` — their list, in the order of their names, and the names.
* `ColumnType.find?` — the type of a name, in any letter case.
-/

namespace PolySql

inductive ColumnType where
  /-- A 64-bit integer. -/
  | bigint
  /-- Binary data of a fixed length. -/
  | binary
  /-- A single bit. -/
  | bit
  /-- A large binary object. -/
  | blob
  /-- A truth value. -/
  | boolean
  /-- Text of a fixed length. -/
  | char
  /-- A large text. -/
  | clob
  /-- A date without a time. -/
  | date
  /-- An exact decimal with precision and scale. -/
  | decimal
  /-- A double-precision float. -/
  | double
  /-- A float of a precision that the database chooses. -/
  | float
  /-- A 32-bit integer. -/
  | integer
  /-- A serialized object. -/
  | javaObject
  /-- A long national text. -/
  | longNvarchar
  /-- Long binary data. -/
  | longVarbinary
  /-- A long text. -/
  | longVarchar
  /-- National text of a fixed length. -/
  | nchar
  /-- A large national text. -/
  | nclob
  /-- An exact number with precision and scale. -/
  | numeric
  /-- National text of a varying length. -/
  | nvarchar
  /-- A type that only the database knows. -/
  | other
  /-- A single-precision float. -/
  | real
  /-- A 16-bit integer. -/
  | smallint
  /-- A time of day. -/
  | time
  /-- A date with a time. -/
  | timestamp
  /-- An 8-bit integer. -/
  | tinyint
  /-- Binary data of a varying length. -/
  | varbinary
  /-- Text of a varying length. -/
  | varchar
  deriving DecidableEq, Repr

namespace ColumnType

def all : List ColumnType := [
  .bigint, .binary, .bit, .blob, .boolean, .char, .clob, .date, .decimal, .double, .float,
  .integer, .javaObject, .longNvarchar, .longVarbinary, .longVarchar, .nchar, .nclob, .numeric,
  .nvarchar, .other, .real, .smallint, .time, .timestamp, .tinyint, .varbinary, .varchar]

def name : ColumnType → String
  | .bigint => "BIGINT"
  | .binary => "BINARY"
  | .bit => "BIT"
  | .blob => "BLOB"
  | .boolean => "BOOLEAN"
  | .char => "CHAR"
  | .clob => "CLOB"
  | .date => "DATE"
  | .decimal => "DECIMAL"
  | .double => "DOUBLE"
  | .float => "FLOAT"
  | .integer => "INTEGER"
  | .javaObject => "JAVA_OBJECT"
  | .longNvarchar => "LONGNVARCHAR"
  | .longVarbinary => "LONGVARBINARY"
  | .longVarchar => "LONGVARCHAR"
  | .nchar => "NCHAR"
  | .nclob => "NCLOB"
  | .numeric => "NUMERIC"
  | .nvarchar => "NVARCHAR"
  | .other => "OTHER"
  | .real => "REAL"
  | .smallint => "SMALLINT"
  | .time => "TIME"
  | .timestamp => "TIMESTAMP"
  | .tinyint => "TINYINT"
  | .varbinary => "VARBINARY"
  | .varchar => "VARCHAR"

/-- The type of a name; only the whole name counts, in any letter case. -/
def find? (name : String) : Option ColumnType :=
  all.find? fun type => Text.sameIgnoringCase type.name name

theorem mem_all (type : ColumnType) : type ∈ all := by
  cases type <;> decide

end ColumnType

end PolySql
