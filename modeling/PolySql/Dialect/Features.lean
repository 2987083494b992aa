import PolySql.Dialect
import PolySql.Text.Replace
import PolySql.Text.Literal

/-!
# What a dialect can say about a table

* `Features` — the parts of table statements that differ between dialects.
* `IdentityClause` — how a column is declared whose values the database generates.
* `CommentForm` — how a comment stands inside a CREATE TABLE statement.
* `Dialect.features` — the features of each dialect.
-/

namespace PolySql

/-- The clause of a column whose values the database generates. -/
structure IdentityClause where
  /-- Whether the type of the column stands before the clause. -/
  writesType : Bool
  text : String
  /-- The clause of a column of type `BIGINT`. -/
  bigintText : String
  deriving DecidableEq, Repr

/-- An identity clause that is the same for every type. -/
def IdentityClause.uniform (writesType : Bool) (text : String) : IdentityClause :=
  ⟨writesType, text, text⟩

/-- A text in which `_COMMENT` stands for the content of a literal. -/
structure CommentForm where
  template : String
  deriving DecidableEq, Repr

def CommentForm.write (form : CommentForm) (comment : String) : String :=
  Text.replaceAll "_COMMENT" (Text.literalContent comment) form.template

structure Features where
  /-- The words that begin the statement of a table with a primary key. -/
  createKeyed : String
  /-- The words that begin the statement of a table without a primary key. -/
  createKeyless : String
  identity : Option IdentityClause
  /-- What follows a column that takes null values. -/
  nullMark : String
  columnCheck : Bool
  tableCheck : Bool
  /-- Whether there are COMMENT ON statements. -/
  commentOn : Bool
  /-- The comment of a column inside its definition. -/
  columnComment : Option CommentForm
  /-- The comment of a table after its definitions. -/
  tableComment : Option CommentForm
  /-- The clause after the definitions that chooses a storage engine. -/
  engine : String
  deriving DecidableEq, Repr

namespace Features

/-- Checks everywhere, no generated values, no comments. -/
def standard : Features where
  createKeyed := "create table"
  createKeyless := "create table"
  identity := none
  nullMark := ""
  columnCheck := true
  tableCheck := true
  commentOn := false
  columnComment := none
  tableComment := none
  engine := ""

def sqlite : Features := { standard with identity := some (.uniform false "integer") }

def desktop : Features := { standard with columnCheck := false, tableCheck := false }

def access : Features := { desktop with identity := some (.uniform false "counter not null") }

def cache : Features := { standard with identity := some (.uniform true "identity") }

def cubrid : Features :=
  { desktop with identity := some (.uniform true "not null auto_increment") }

def derby : Features :=
  { standard with identity := some (.uniform true "generated by default as identity") }

def db2 : Features := { derby with commentOn := true }

def h2 : Features := { derby with commentOn := true }

def hanaColumn : Features :=
  { desktop with
    createKeyed := "create column table"
    createKeyless := "create column table"
    identity := some (.uniform true "generated by default as identity")
    commentOn := true }

def hanaRow : Features :=
  { hanaColumn with createKeyed := "create row table", createKeyless := "create row table" }

def hsql : Features :=
  { standard with
    identity := some (.uniform true "generated by default as identity (start with 1)")
    commentOn := true }

def informix : Features :=
  { standard with identity := some ⟨false, "serial not null", "serial8 not null"⟩ }

def ingres : Features :=
  { standard with identity := some (.uniform true "not null generated by default as identity") }

def jDataStore : Features := { desktop with identity := some (.uniform true "autoincrement") }

def mySql : Features :=
  { desktop with
    identity := some (.uniform true "not null auto_increment")
    columnComment := some ⟨" comment '_COMMENT'"⟩
    tableComment := some ⟨" comment='_COMMENT'"⟩ }

def mySqlTypeInnoDb : Features := { mySql with engine := " type=InnoDB" }

def mySqlTypeMyIsam : Features := { mySql with engine := " type=MyISAM" }

def mySqlEngineInnoDb : Features := { mySql with engine := " engine=InnoDB" }

def mckoi : Features := { standard with tableCheck := false }

def mimer : Features := { standard with columnCheck := false }

def oracle : Features := { standard with commentOn := true }

def oracle12c : Features :=
  { oracle with identity := some (.uniform true "generated as identity") }

def postgres : Features :=
  { standard with
    identity := some ⟨false, "serial not null", "bigserial not null"⟩
    commentOn := true }

def sqlServer : Features :=
  { standard with identity := some (.uniform true "identity not null"), nullMark := " null" }

def sybaseAnywhere : Features :=
  { sqlServer with identity := some (.uniform true "identity") }

def teradata : Features :=
  { standard with createKeyless := "create multiset table", commentOn := true }

def teradata14 : Features :=
  { teradata with
    identity := some (.uniform true "generated by default as identity not null") }

def timesTen : Features := desktop

end Features

def Dialect.features : Dialect → Features
  | .sqlite => .sqlite
  | .access => .access
  | .excel | .text | .paradox | .cobol | .xml | .dbf => .desktop
  | .cache71 => .cache
  | .cubrid => .cubrid
  | .db2 | .db2v390 | .db2v400 => .db2
  | .derby | .derby10v5 | .derby10v6 | .derby10v7 => .derby
  | .firebird | .interbase | .pointbase | .progress | .rdmsOs2200 | .sapDb | .frontBase | .ingres =>
    .standard
  | .h2 => .h2
  | .hanaColumnStore => .hanaColumn
  | .hanaRowStore => .hanaRow
  | .hsql => .hsql
  | .informix | .informix10 => .informix
  | .ingres9 | .ingres10 => .ingres
  | .jDataStore => .jDataStore
  | .mySql | .mySql5 => .mySql
  | .mySqlInnoDb => .mySqlTypeInnoDb
  | .mySqlMyIsam => .mySqlTypeMyIsam
  | .mySql5InnoDb | .mySql55 | .mySql57 | .mySql57InnoDb | .mariaDb | .mariaDb53 =>
    .mySqlEngineInnoDb
  | .mckoi => .mckoi
  | .mimerSql => .mimer
  | .dataDirectOracle9 | .oracle | .oracle8i | .oracle9 | .oracle9i | .oracle10g =>
    .oracle
  | .oracle12c => .oracle12c
  | .postgresPlus | .postgreSql | .postgreSql81 | .postgreSql82 | .postgreSql9 | .postgreSql91
  | .postgreSql92 | .postgreSql93 | .postgreSql94 | .postgreSql95 => .postgres
  | .sqlServer | .sqlServer2005 | .sqlServer2008 | .sqlServer2012 | .sybase | .sybase11
  | .sybaseAse15 | .sybaseAse157 => .sqlServer
  | .sybaseAnywhere => .sybaseAnywhere
  | .teradata => .teradata
  | .teradata14 => .teradata14
  | .timesTen => .timesTen

end PolySql
