import PolySql.Text.Ascii
import PolySql.Text.Blank

/-!
# Dialects

A dialect is a database product in one of its versions.

* `Dialect` — the 75 dialects; `Dialect.all` lists them.
* `Dialect.stem`, `Dialect.name` — a short name and the full one, which ends in `Dialect`.
* `Dialect.find?` — the dialect of a name of either kind, in any letter case.
* `Family`, `Dialect.family` — dialects that share syntax and type names.
-/

namespace PolySql

inductive Dialect where
  | sqlite | access | excel | text | paradox | cobol | xml | dbf | cache71 | cubrid
  | dataDirectOracle9 | db2 | db2v390 | db2v400 | derby | derby10v5 | derby10v6 | derby10v7
  | firebird | frontBase | h2 | hanaColumnStore | hanaRowStore | hsql | informix | informix10
  | ingres | ingres9 | ingres10 | interbase | jDataStore | mariaDb | mariaDb53 | mckoi | mimerSql
  | mySql | mySql5 | mySql5InnoDb | mySql55 | mySql57 | mySql57InnoDb | mySqlInnoDb | mySqlMyIsam
  | oracle | oracle8i | oracle9 | oracle9i | oracle10g | oracle12c | pointbase | postgresPlus
  | postgreSql | postgreSql81 | postgreSql82 | postgreSql9 | postgreSql91 | postgreSql92
  | postgreSql93 | postgreSql94 | postgreSql95 | progress | rdmsOs2200 | sapDb | sqlServer
  | sqlServer2005 | sqlServer2008 | sqlServer2012 | sybase | sybase11 | sybaseAnywhere
  | sybaseAse15 | sybaseAse157 | teradata | teradata14 | timesTen
  deriving DecidableEq, Repr

/-- Dialects that share syntax and the names of types. -/
inductive Family where
  | sqlite | desktop | cache | cubrid | db2 | derby | firebird | frontBase | h2 | hana | hsql
  | informix | ingres | jDataStore | mySql | mckoi | mimer | oracle | pointbase | postgres
  | progress | rdms | sapDb | sqlServer | sybase | teradata | timesTen
  deriving DecidableEq, Repr

namespace Dialect

def all : List Dialect := [
  .sqlite, .access, .excel, .text, .paradox, .cobol, .xml, .dbf, .cache71, .cubrid,
  .dataDirectOracle9, .db2, .db2v390, .db2v400, .derby, .derby10v5, .derby10v6, .derby10v7,
  .firebird, .frontBase, .h2, .hanaColumnStore, .hanaRowStore, .hsql, .informix, .informix10,
  .ingres, .ingres9, .ingres10, .interbase, .jDataStore, .mariaDb, .mariaDb53, .mckoi, .mimerSql,
  .mySql, .mySql5, .mySql5InnoDb, .mySql55, .mySql57, .mySql57InnoDb, .mySqlInnoDb, .mySqlMyIsam,
  .oracle, .oracle8i, .oracle9, .oracle9i, .oracle10g, .oracle12c, .pointbase, .postgresPlus,
  .postgreSql, .postgreSql81, .postgreSql82, .postgreSql9, .postgreSql91, .postgreSql92,
  .postgreSql93, .postgreSql94, .postgreSql95, .progress, .rdmsOs2200, .sapDb, .sqlServer,
  .sqlServer2005, .sqlServer2008, .sqlServer2012, .sybase, .sybase11, .sybaseAnywhere,
  .sybaseAse15, .sybaseAse157, .teradata, .teradata14, .timesTen]

/-- The name without its ending. -/
def stem : Dialect → String
  | .sqlite => "SQLite"
  | .access => "Access"
  | .excel => "Excel"
  | .text => "Text"
  | .paradox => "Paradox"
  | .cobol => "Cobol"
  | .xml => "XML"
  | .dbf => "Dbf"
  | .cache71 => "Cache71"
  | .cubrid => "CUBRID"
  | .dataDirectOracle9 => "DataDirectOracle9"
  | .db2 => "DB2"
  | .db2v390 => "DB2390"
  | .db2v400 => "DB2400"
  | .derby => "Derby"
  | .derby10v5 => "DerbyTenFive"
  | .derby10v6 => "DerbyTenSix"
  | .derby10v7 => "DerbyTenSeven"
  | .firebird => "Firebird"
  | .frontBase => "FrontBase"
  | .h2 => "H2"
  | .hanaColumnStore => "HANAColumnStore"
  | .hanaRowStore => "HANARowStore"
  | .hsql => "HSQL"
  | .informix => "Informix"
  | .informix10 => "Informix10"
  | .ingres => "Ingres"
  | .ingres9 => "Ingres9"
  | .ingres10 => "Ingres10"
  | .interbase => "Interbase"
  | .jDataStore => "JDataStore"
  | .mariaDb => "MariaDB"
  | .mariaDb53 => "MariaDB53"
  | .mckoi => "Mckoi"
  | .mimerSql => "MimerSQL"
  | .mySql => "MySQL"
  | .mySql5 => "MySQL5"
  | .mySql5InnoDb => "MySQL5InnoDB"
  | .mySql55 => "MySQL55"
  | .mySql57 => "MySQL57"
  | .mySql57InnoDb => "MySQL57InnoDB"
  | .mySqlInnoDb => "MySQLInnoDB"
  | .mySqlMyIsam => "MySQLMyISAM"
  | .oracle => "Oracle"
  | .oracle8i => "Oracle8i"
  | .oracle9 => "Oracle9"
  | .oracle9i => "Oracle9i"
  | .oracle10g => "Oracle10g"
  | .oracle12c => "Oracle12c"
  | .pointbase => "Pointbase"
  | .postgresPlus => "PostgresPlus"
  | .postgreSql => "PostgreSQL"
  | .postgreSql81 => "PostgreSQL81"
  | .postgreSql82 => "PostgreSQL82"
  | .postgreSql9 => "PostgreSQL9"
  | .postgreSql91 => "PostgreSQL91"
  | .postgreSql92 => "PostgreSQL92"
  | .postgreSql93 => "PostgreSQL93"
  | .postgreSql94 => "PostgreSQL94"
  | .postgreSql95 => "PostgreSQL95"
  | .progress => "Progress"
  | .rdmsOs2200 => "RDMSOS2200"
  | .sapDb => "SAPDB"
  | .sqlServer => "SQLServer"
  | .sqlServer2005 => "SQLServer2005"
  | .sqlServer2008 => "SQLServer2008"
  | .sqlServer2012 => "SQLServer2012"
  | .sybase => "Sybase"
  | .sybase11 => "Sybase11"
  | .sybaseAnywhere => "SybaseAnywhere"
  | .sybaseAse15 => "SybaseASE15"
  | .sybaseAse157 => "SybaseASE157"
  | .teradata => "Teradata"
  | .teradata14 => "Teradata14"
  | .timesTen => "TimesTen"

def name (dialect : Dialect) : String := dialect.stem ++ "Dialect"

/-- The dialect of a name, with or without the ending; blanks around it do not count. -/
def find? (name : String) : Option Dialect :=
  let wanted := String.ofList (Text.trim name.toList)
  all.find? fun dialect =>
    Text.sameIgnoringCase dialect.name wanted || Text.sameIgnoringCase dialect.stem wanted

def family : Dialect → Family
  | .sqlite => .sqlite
  | .access | .excel | .text | .paradox | .cobol | .xml | .dbf => .desktop
  | .cache71 => .cache
  | .cubrid => .cubrid
  | .db2 | .db2v390 | .db2v400 => .db2
  | .derby | .derby10v5 | .derby10v6 | .derby10v7 => .derby
  | .firebird | .interbase => .firebird
  | .frontBase => .frontBase
  | .h2 => .h2
  | .hanaColumnStore | .hanaRowStore => .hana
  | .hsql => .hsql
  | .informix | .informix10 => .informix
  | .ingres | .ingres9 | .ingres10 => .ingres
  | .jDataStore => .jDataStore
  | .mariaDb | .mariaDb53 | .mySql | .mySql5 | .mySql5InnoDb | .mySql55 | .mySql57
  | .mySql57InnoDb | .mySqlInnoDb | .mySqlMyIsam => .mySql
  | .mckoi => .mckoi
  | .mimerSql => .mimer
  | .dataDirectOracle9 | .oracle | .oracle8i | .oracle9 | .oracle9i | .oracle10g | .oracle12c =>
    .oracle
  | .pointbase => .pointbase
  | .postgresPlus | .postgreSql | .postgreSql81 | .postgreSql82 | .postgreSql9 | .postgreSql91
  | .postgreSql92 | .postgreSql93 | .postgreSql94 | .postgreSql95 => .postgres
  | .progress => .progress
  | .rdmsOs2200 => .rdms
  | .sapDb => .sapDb
  | .sqlServer | .sqlServer2005 | .sqlServer2008 | .sqlServer2012 => .sqlServer
  | .sybase | .sybase11 | .sybaseAnywhere | .sybaseAse15 | .sybaseAse157 => .sybase
  | .teradata | .teradata14 => .teradata
  | .timesTen => .timesTen

theorem mem_all (dialect : Dialect) : dialect ∈ all := by
  cases dialect <;> decide

end Dialect

def Family.name : Family → String
  | .sqlite => "sqlite"
  | .desktop => "desktop"
  | .cache => "cache"
  | .cubrid => "cubrid"
  | .db2 => "db2"
  | .derby => "derby"
  | .firebird => "firebird"
  | .frontBase => "frontbase"
  | .h2 => "h2"
  | .hana => "hana"
  | .hsql => "hsql"
  | .informix => "informix"
  | .ingres => "ingres"
  | .jDataStore => "jdatastore"
  | .mySql => "mysql"
  | .mckoi => "mckoi"
  | .mimer => "mimer"
  | .oracle => "oracle"
  | .pointbase => "pointbase"
  | .postgres => "postgres"
  | .progress => "progress"
  | .rdms => "rdms"
  | .sapDb => "sapdb"
  | .sqlServer => "sqlserver"
  | .sybase => "sybase"
  | .teradata => "teradata"
  | .timesTen => "timesten"

end PolySql
