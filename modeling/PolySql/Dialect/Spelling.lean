import PolySql.ColumnType
import PolySql.ColumnType.Lengths
import PolySql.Dialect
import PolySql.Text.Replace

/-!
# How dialects spell column types

* `TypeRule` — a spelling with places for length, precision and scale, perhaps with a longest length
  and what is written beyond it.
* `TypeRule.write` — the spelling of a type of given lengths.
* `Dialect.typeRule?` — the rule of a dialect for a type. A family of dialects overrides the rules
  of the SQL standard where it differs.
-/

namespace PolySql

/-- A spelling in which `$l`, `$p` and `$s` stand for length, precision and scale. -/
structure TypeRule where
  template : String
  /-- The longest length for the template, and the spelling for longer ones. -/
  ceiling : Option (UInt32 × String)
  deriving DecidableEq, Repr

namespace TypeRule

/-- The spelling that applies to a length. -/
def chosen (rule : TypeRule) (length : UInt32) : String :=
  match rule.ceiling with
  | some (longest, beyond) => if longest < length then beyond else rule.template
  | none => rule.template

def write (rule : TypeRule) (lengths : Lengths) : String :=
  let length := lengths.lengthOrDefault
  Text.replaceAll "$s" (toString lengths.scaleOrDefault.toNat) <|
    Text.replaceAll "$p" (toString lengths.precisionOrDefault.toNat) <|
      Text.replaceAll "$l" (toString length.toNat) (rule.chosen length)

end TypeRule

namespace Spelling

def plain (template : String) : Option TypeRule := some ⟨template, none⟩

def capped (template : String) (longest : UInt32) (beyond : String) : Option TypeRule :=
  some ⟨template, some (longest, beyond)⟩

/-! ## The rules of each family -/

/-- The names of the SQL standard, on which every family builds. -/
def standard : ColumnType → Option TypeRule
  | .bigint => plain "bigint"
  | .binary => plain "binary($l)"
  | .bit => plain "bit"
  | .blob => plain "blob"
  | .boolean => plain "boolean"
  | .char => plain "char($l)"
  | .clob => plain "clob"
  | .date => plain "date"
  | .decimal => plain "decimal($p,$s)"
  | .double => plain "double precision"
  | .float => plain "float"
  | .integer => plain "integer"
  | .longNvarchar | .nvarchar => plain "nvarchar($l)"
  | .longVarbinary | .varbinary => plain "varbinary($l)"
  | .longVarchar | .varchar => plain "varchar($l)"
  | .nchar => plain "nchar($l)"
  | .nclob => plain "nclob"
  | .numeric => plain "numeric($p,$s)"
  | .real => plain "real"
  | .smallint => plain "smallint"
  | .time => plain "time"
  | .timestamp => plain "timestamp"
  | .tinyint => plain "tinyint"
  | .javaObject | .other => none

def sqlite : ColumnType → Option TypeRule
  | .binary | .varbinary | .longVarbinary => plain "blob"
  | .bit | .boolean => plain "integer"
  | .char => plain "char"
  | .decimal => plain "decimal"
  | .double => plain "double"
  | .longNvarchar => plain "longnvarchar"
  | .longVarchar => plain "longvarchar"
  | .nchar => plain "nchar"
  | .numeric => plain "numeric"
  | .nvarchar => plain "nvarchar"
  | type => standard type

def desktop : ColumnType → Option TypeRule
  | .bigint => plain "integer"
  | .blob | .longVarbinary => plain "longbinary"
  | .boolean => plain "bit"
  | .clob | .longVarchar | .longNvarchar | .nclob => plain "memo"
  | .date | .time | .timestamp => plain "datetime"
  | .double => plain "double"
  | .nchar => plain "char($l)"
  | .numeric => plain "decimal($p,$s)"
  | .nvarchar => capped "varchar($l)" 255 "memo"
  | .tinyint => plain "byte"
  | .varchar => capped "varchar($l)" 255 "memo"
  | type => standard type

def cache : ColumnType → Option TypeRule
  | .binary | .varbinary => plain "varbinary($l)"
  | .blob | .longVarbinary => plain "longvarbinary"
  | .boolean => plain "bit"
  | .clob | .longVarchar => plain "longvarchar"
  | .double | .float => plain "double"
  | .numeric => plain "decimal($p,$s)"
  | type => standard type

def cubrid : ColumnType → Option TypeRule
  | .binary => plain "bit($l)"
  | .bit | .boolean => plain "bit(8)"
  | .double | .real => plain "double"
  | .integer => plain "int"
  | .longVarchar => plain "string"
  | .nvarchar | .longNvarchar => plain "nchar varying($l)"
  | .smallint | .tinyint => plain "short"
  | .varbinary | .longVarbinary => plain "bit varying($l)"
  | type => standard type

def db2 : ColumnType → Option TypeRule
  | .binary | .varbinary => plain "varchar($l) for bit data"
  | .bit | .boolean | .tinyint => plain "smallint"
  | .double => plain "double"
  | .longNvarchar => plain "long vargraphic"
  | .longVarbinary => plain "long varchar for bit data"
  | .longVarchar => plain "long varchar"
  | .nchar => plain "graphic($l)"
  | .nclob => plain "dbclob"
  | .nvarchar => plain "vargraphic($l)"
  | type => standard type

def derby : ColumnType → Option TypeRule
  | .boolean => plain "boolean"
  | .nchar => plain "char($l)"
  | .nclob => plain "clob"
  | .nvarchar => plain "varchar($l)"
  | .longNvarchar => plain "long varchar"
  | type => db2 type

/-- Interbase has no 64-bit integer. -/
def firebird (interbase : Bool) : ColumnType → Option TypeRule
  | .bigint => if interbase then plain "numeric(18,0)" else standard .bigint
  | .binary | .blob | .varbinary | .longVarbinary => plain "blob"
  | .bit | .boolean | .tinyint => plain "smallint"
  | .clob | .longVarchar | .longNvarchar | .nclob => plain "blob sub_type 1"
  | .decimal => plain "numeric($p,$s)"
  | .nchar => plain "char($l)"
  | .nvarchar => plain "varchar($l)"
  | .real => plain "float"
  | type => standard type

def frontBase : ColumnType → Option TypeRule
  | .bigint => plain "longint"
  | .binary => plain "bit($l)"
  | .tinyint => plain "smallint"
  | .varbinary | .longVarbinary => plain "bit varying($l)"
  | type => standard type

/-- H2 and HSQL differ in their binary types. -/
def h2 (hsql : Bool) : ColumnType → Option TypeRule
  | .binary => if hsql then standard .binary else plain "binary"
  | .bit => if hsql then standard .bit else plain "boolean"
  | .double => plain "double"
  | .javaObject | .other => plain "other"
  | .longVarbinary => plain "longvarbinary"
  | .longVarchar => plain "longvarchar"
  | .numeric => plain "decimal($p,$s)"
  | .varbinary => if hsql then standard .varbinary else plain "binary($l)"
  | type => standard type

def hana : ColumnType → Option TypeRule
  | .binary => plain "varbinary($l)"
  | .bit => plain "tinyint"
  | .double => plain "double"
  | .longNvarchar => plain "nclob"
  | .longVarbinary => plain "blob"
  | .longVarchar => plain "clob"
  | .numeric => plain "decimal($p,$s)"
  | .varchar => capped "varchar($l)" 5000 "clob"
  | .nvarchar => capped "nvarchar($l)" 5000 "nclob"
  | type => standard type

def informix : ColumnType → Option TypeRule
  | .bigint => plain "int8"
  | .binary | .varbinary => plain "byte"
  | .bit | .tinyint => plain "smallint"
  | .double => plain "float"
  | .float | .real => plain "smallfloat"
  | .longNvarchar | .longVarchar | .nclob => plain "clob"
  | .longVarbinary => plain "blob"
  | .numeric => plain "decimal($p,$s)"
  | .time => plain "datetime hour to second"
  | .timestamp => plain "datetime year to fraction(5)"
  | .varchar => capped "varchar($l)" 255 "lvarchar($l)"
  | type => standard type

/-- Later releases have a date of the standard beside their own. -/
def ingres (ansiDate : Bool) : ColumnType → Option TypeRule
  | .bigint => plain "integer8"
  | .binary => plain "byte($l)"
  | .bit | .boolean => plain "tinyint"
  | .blob | .longVarbinary => plain "long byte"
  | .clob | .longVarchar => plain "long varchar"
  | .date => if ansiDate then plain "ansidate" else standard .date
  | .double => plain "float"
  | .longNvarchar | .nclob => plain "long nvarchar"
  | .numeric => plain "decimal($p,$s)"
  | .varbinary => plain "varbyte($l)"
  | type => standard type

def jDataStore : ColumnType → Option TypeRule
  | .bit => plain "tinyint"
  | .blob | .longVarbinary => plain "varbinary"
  | .clob | .longVarchar => plain "varchar"
  | .double => plain "double"
  | type => standard type

/-- `max` is the longest text that fits the ordinary types. -/
def mySql (max : UInt32) : ColumnType → Option TypeRule
  | .blob | .longVarbinary => plain "longblob"
  | .boolean => plain "bit"
  | .clob | .longVarchar | .longNvarchar | .nclob => plain "longtext"
  | .nchar => plain "char($l)"
  | .numeric => plain "decimal($p,$s)"
  | .nvarchar | .varchar => capped "varchar($l)" max "longtext"
  | .real => plain "float"
  | .timestamp => plain "datetime"
  | .varbinary => capped "varbinary($l)" max "longblob"
  | type => standard type

def mckoi : ColumnType → Option TypeRule
  | .boolean => plain "bit"
  | .double => plain "double"
  | .varbinary | .longVarbinary => plain "varbinary"
  | type => standard type

def mimer : ColumnType → Option TypeRule
  | .bit | .boolean | .tinyint => plain "smallint"
  | .char => plain "nchar($l)"
  | .clob | .longVarchar => plain "nclob"
  | .varbinary | .longVarbinary => plain "binary varying($l)"
  | .varchar => plain "national character varying($l)"
  | type => standard type

/-- Early releases have no timestamp. -/
def oracle (early : Bool) : ColumnType → Option TypeRule
  | .bigint => plain "number(19,0)"
  | .binary | .varbinary => capped "raw($l)" 2000 "blob"
  | .bit | .boolean => plain "number(1,0)"
  | .decimal | .numeric => plain "number($p,$s)"
  | .integer => plain "number(10,0)"
  | .longNvarchar => plain "nclob"
  | .longVarbinary => plain "long raw"
  | .longVarchar => plain "long"
  | .nvarchar => capped "nvarchar2($l)" 2000 "nclob"
  | .smallint => plain "number(5,0)"
  | .time => plain "date"
  | .timestamp => if early then plain "date" else standard .timestamp
  | .tinyint => plain "number(3,0)"
  | .varchar => capped "varchar2($l)" 4000 "clob"
  | type => standard type

def pointbase : ColumnType → Option TypeRule
  | .binary | .varbinary | .longVarbinary => plain "blob($l)"
  | .bit | .boolean | .tinyint => plain "smallint"
  | .double => plain "float"
  | type => standard type

def postgres : ColumnType → Option TypeRule
  | .bigint => plain "int8"
  | .binary | .blob | .longVarbinary | .varbinary => plain "bytea"
  | .bit => plain "bool"
  | .clob | .longVarchar | .longNvarchar | .nclob => plain "text"
  | .decimal | .numeric => plain "numeric($p,$s)"
  | .double => plain "float8"
  | .float | .real => plain "float4"
  | .integer => plain "int4"
  | .nchar => plain "char($l)"
  | .nvarchar => plain "varchar($l)"
  | .smallint | .tinyint => plain "int2"
  | type => standard type

def progress : ColumnType → Option TypeRule
  | .bigint => plain "numeric"
  | .boolean => plain "bit"
  | .blob | .clob | .nclob => none
  | type => standard type

def rdms : ColumnType → Option TypeRule
  | .bigint => plain "numeric(19,0)"
  | .binary | .varbinary | .longVarbinary => plain "blob($l)"
  | .bit | .boolean | .tinyint => plain "smallint"
  | .float => plain "real"
  | type => standard type

def sapDb : ColumnType → Option TypeRule
  | .bigint => plain "fixed(19,0)"
  | .binary | .blob | .varbinary | .longVarbinary => plain "long byte"
  | .bit => plain "boolean"
  | .clob | .longVarchar => plain "long varchar"
  | .decimal | .numeric => plain "fixed($p,$s)"
  | .tinyint => plain "fixed(3,0)"
  | type => standard type

/-- Later releases have types without a length limit, and then types for dates and times. -/
def sqlServer (maxTypes dateTypes : Bool) : ColumnType → Option TypeRule
  | .blob | .longVarbinary => plain (if maxTypes then "varbinary(MAX)" else "image")
  | .boolean => plain "bit"
  | .clob | .longVarchar => plain (if maxTypes then "varchar(MAX)" else "text")
  | .date => plain (if dateTypes then "date" else "datetime")
  | .integer => plain "int"
  | .longNvarchar | .nclob => plain (if maxTypes then "nvarchar(MAX)" else "ntext")
  | .time => plain (if dateTypes then "time" else "datetime")
  | .timestamp => plain (if dateTypes then "datetime2" else "datetime")
  | .varbinary => capped "varbinary($l)" 8000 (if maxTypes then "varbinary(MAX)" else "image")
  | .varchar => capped "varchar($l)" 8000 (if maxTypes then "varchar(MAX)" else "text")
  | type => standard type

/-- Some releases have types for dates and times. -/
def sybase (dateTypes : Bool) : ColumnType → Option TypeRule
  | .blob | .longVarbinary => plain "image"
  | .boolean => plain "bit"
  | .clob | .longVarchar => plain "text"
  | .date => plain (if dateTypes then "date" else "datetime")
  | .integer => plain "int"
  | .longNvarchar | .nclob => plain "unitext"
  | .time => plain (if dateTypes then "time" else "datetime")
  | .timestamp => plain "datetime"
  | .varchar => capped "varchar($l)" 16384 "text"
  | type => standard type

/-- Early releases have no 64-bit integer. -/
def teradata (narrow : Bool) : ColumnType → Option TypeRule
  | .bigint => if narrow then plain "numeric(18,0)" else standard .bigint
  | .binary => plain "byte($l)"
  | .bit | .boolean | .tinyint => plain "byteint"
  | .longNvarchar => plain "long varchar character set unicode"
  | .longVarbinary | .varbinary => plain "varbyte($l)"
  | .longVarchar => plain "long varchar"
  | .nchar => plain "char($l) character set unicode"
  | .nclob => plain "clob character set unicode"
  | .nvarchar => plain "varchar($l) character set unicode"
  | type => standard type

def timesTen : ColumnType → Option TypeRule
  | .bit | .boolean => plain "tinyint"
  | .blob | .longVarbinary => plain "varbinary(4000000)"
  | .clob | .longVarchar => plain "varchar(4000000)"
  | .double => plain "double"
  | .numeric => plain "decimal($p,$s)"
  | .varchar => plain "varchar2($l)"
  | type => standard type

end Spelling

/-- The rule for a type, if the dialect has the type. -/
def Dialect.typeRule? (dialect : Dialect) : ColumnType → Option TypeRule :=
  match dialect.family with
  | .sqlite => Spelling.sqlite
  | .desktop => Spelling.desktop
  | .cache => Spelling.cache
  | .cubrid => Spelling.cubrid
  | .db2 => Spelling.db2
  | .derby => Spelling.derby
  | .firebird => Spelling.firebird (dialect = .interbase)
  | .frontBase => Spelling.frontBase
  | .h2 | .hsql => Spelling.h2 (dialect = .hsql)
  | .hana => Spelling.hana
  | .informix => Spelling.informix
  | .ingres => Spelling.ingres (dialect ≠ .ingres)
  | .jDataStore => Spelling.jDataStore
  | .mySql =>
    Spelling.mySql (if dialect ∈ [.mySql, .mySqlInnoDb, .mySqlMyIsam] then 255 else 65535)
  | .mckoi => Spelling.mckoi
  | .mimer => Spelling.mimer
  | .oracle => Spelling.oracle (dialect ∈ [.oracle, .oracle8i])
  | .pointbase => Spelling.pointbase
  | .postgres => Spelling.postgres
  | .progress => Spelling.progress
  | .rdms => Spelling.rdms
  | .sapDb => Spelling.sapDb
  | .sqlServer =>
    Spelling.sqlServer (dialect ≠ .sqlServer) (dialect ∈ [.sqlServer2008, .sqlServer2012])
  | .sybase => Spelling.sybase (dialect ∈ [.sybaseAse15, .sybaseAse157])
  | .teradata => Spelling.teradata (dialect = .teradata)
  | .timesTen => Spelling.timesTen

/-- The spelling of a type, if the dialect has the type. -/
def Dialect.spell? (dialect : Dialect) (type : ColumnType) (lengths : Lengths) : Option String :=
  (dialect.typeRule? type).map (·.write lengths)

end PolySql
