import PolySql.Dialect
import PolySql.Text.Replace

/-!
# Paging templates

A template is a query in which placeholders stand for the caller's query and for row counts.

* `Dialect.pageTemplate?`, `Dialect.topTemplate?` — the template of any page, and that of the first
  rows, of the dialects that have one.
* `PageValues` — what the placeholders stand for.
* `Template.fill` — a template with its placeholders filled in.

| placeholder | stands for |
|---|---|
| `$BODY` | the query after its `select` |
| `$PAGESIZE` | the rows of a page |
| `$SKIP_ROWS`, `$SKIP_ROWS_PLUS1` | the rows before the page, and one more |
| `$TOTAL_ROWS`, `$TOTAL_ROWS_PLUS1` | the rows up to the end of the page, and one more |
| `$FIELDS_OR_ALIAS` | the names of the columns that the query returns |
| `($DISTINCT)` | `distinct`, or nothing |
-/

namespace PolySql

namespace Template

/-! ## The templates -/

def limitOffset : String := "select $BODY limit $PAGESIZE offset $SKIP_ROWS"

def limitSkip : String := "select $BODY limit $SKIP_ROWS, $PAGESIZE"

def offsetFetchNext : String :=
  "select $BODY offset $SKIP_ROWS rows fetch next $PAGESIZE rows only"

def offsetFetchFirst : String := "select $BODY offset $SKIP_ROWS fetch first $PAGESIZE rows only"

def rowsTo : String := "select $BODY rows $SKIP_ROWS to $PAGESIZE"

def firstSkip : String := "select first $PAGESIZE skip $SKIP_ROWS $BODY"

def skipFirst : String := "select SKIP $SKIP_ROWS first $PAGESIZE $BODY"

def limitLeading : String := "select limit $SKIP_ROWS $PAGESIZE $BODY"

def rowNumber : String :=
  "WITH query AS (SELECT TMP_.*, ROW_NUMBER() OVER (ORDER BY CURRENT_TIMESTAMP) as ROW_NUM_ " ++
    "FROM ( select ($DISTINCT) TOP($TOTAL_ROWS) $BODY ) TMP_ ) SELECT $FIELDS_OR_ALIAS FROM " ++
    "query WHERE ROW_NUM_ >= $SKIP_ROWS_PLUS1 AND ROW_NUM_ < $TOTAL_ROWS_PLUS1"

def orderedRowNumber : String :=
  "select * from ( select inner2_.*, rownumber() over(order by order of inner2_) as " ++
    "rownumber_ from ( select $BODY fetch first $TOTAL_ROWS rows only ) as inner2_ ) as " ++
    "inner1_ where rownumber_ > $SKIP_ROWS order by rownumber_"

def rownum : String :=
  "select * from ( select row_.*, rownum rownum_ from ( select $BODY ) row_ where rownum <= " ++
    "$TOTAL_ROWS) where rownum_ > $SKIP_ROWS"

def rownumOutside : String :=
  "select * from ( select row_.*, rownum rownum_ from ( select $BODY ) row_ ) where rownum_ " ++
    "<= $TOTAL_ROWS and rownum_ > $SKIP_ROWS"

def topFetchFirst : String := "select $BODY fetch first $PAGESIZE rows only"

def topLimit : String := "select $BODY limit $PAGESIZE"

def topOffsetZero : String := "select $BODY offset 0 rows fetch next $PAGESIZE rows only"

def topRows : String := "select $BODY rows $PAGESIZE"

def topParenthesized : String := "select ($DISTINCT) TOP($PAGESIZE) $BODY"

def topDistinct : String := "select ($DISTINCT) top $PAGESIZE $BODY"

def topFirst : String := "select first $PAGESIZE $BODY"

def topPlain : String := "select top $PAGESIZE $BODY"

def topRownum : String := "select * from ( select $BODY ) where rownum <= $PAGESIZE"

end Template

/-- The template of an arbitrary page, if the dialect has one. -/
def Dialect.pageTemplate? : Dialect → Option String
  | .sqlServer2005 | .sqlServer2008 => some Template.rowNumber
  | .h2 | .hanaColumnStore | .hanaRowStore | .postgresPlus | .postgreSql | .postgreSql81
  | .postgreSql82 | .postgreSql9 | .postgreSql91 | .postgreSql92 | .postgreSql93 | .postgreSql94
  | .postgreSql95 | .sqlite => some Template.limitOffset
  | .access | .cobol | .cubrid | .dbf | .excel | .mariaDb | .mariaDb53 | .mySql | .mySql5
  | .mySql5InnoDb | .mySql55 | .mySql57 | .mySql57InnoDb | .mySqlInnoDb | .mySqlMyIsam | .paradox
  | .text | .xml => some Template.limitSkip
  | .oracle12c | .sqlServer2012 | .derby | .derby10v5 | .derby10v6 | .derby10v7 =>
    some Template.offsetFetchNext
  | .ingres9 | .ingres10 => some Template.offsetFetchFirst
  | .interbase => some Template.rowsTo
  | .db2 | .db2v400 => some Template.orderedRowNumber
  | .oracle | .oracle8i => some Template.rownumOutside
  | .dataDirectOracle9 | .oracle9 | .oracle9i | .oracle10g => some Template.rownum
  | .informix10 => some Template.skipFirst
  | .firebird => some Template.firstSkip
  | .hsql => some Template.limitLeading
  | .cache71 | .db2v390 | .frontBase | .informix | .ingres | .jDataStore | .mckoi | .mimerSql
  | .pointbase | .progress | .rdmsOs2200 | .sapDb | .sqlServer | .sybase | .sybase11
  | .sybaseAnywhere | .sybaseAse15 | .sybaseAse157 | .teradata | .teradata14 | .timesTen => none

/-- The template of the first rows, if the dialect has one. -/
def Dialect.topTemplate? : Dialect → Option String
  | .oracle12c | .db2 | .db2v390 | .db2v400 | .derby | .derby10v5 | .derby10v6 | .derby10v7
  | .ingres9 | .ingres10 | .rdmsOs2200 => some Template.topFetchFirst
  | .access | .cobol | .cubrid | .dbf | .excel | .h2 | .hanaColumnStore | .hanaRowStore
  | .mariaDb | .mariaDb53 | .mySql | .mySql5 | .mySql5InnoDb | .mySql55 | .mySql57
  | .mySql57InnoDb | .mySqlInnoDb | .mySqlMyIsam | .paradox | .postgresPlus | .postgreSql
  | .postgreSql81 | .postgreSql82 | .postgreSql9 | .postgreSql91 | .postgreSql92 | .postgreSql93
  | .postgreSql94 | .postgreSql95 | .sqlite | .text | .xml => some Template.topLimit
  | .sqlServer2012 => some Template.topOffsetZero
  | .interbase => some Template.topRows
  | .sqlServer2005 | .sqlServer2008 => some Template.topParenthesized
  | .cache71 | .sqlServer => some Template.topDistinct
  | .oracle | .oracle8i | .oracle9 | .oracle9i | .oracle10g | .dataDirectOracle9 =>
    some Template.topRownum
  | .firebird | .informix | .informix10 | .ingres | .timesTen => some Template.topFirst
  | .hsql => some Template.topPlain
  | .frontBase | .jDataStore | .mckoi | .mimerSql | .pointbase | .progress | .sapDb | .sybase
  | .sybase11 | .sybaseAnywhere | .sybaseAse15 | .sybaseAse157 | .teradata | .teradata14 => none

/-- The text that stands for a template that a dialect does not have. -/
def Template.absent : String := "NOT_SUPPORT"

/-! ## Filling a template -/

/-- What the placeholders of a template stand for. -/
structure PageValues where
  body : String
  distinct : Bool
  fields : String
  pageSize : UInt64
  skipRows : UInt64
  deriving DecidableEq, Repr

namespace PageValues

/-- The largest row number that a query can name. -/
def maxRow : Nat := UInt64.size - 1

/-- The rows up to the end of the page. -/
def totalRows (values : PageValues) : Nat :=
  min (values.skipRows.toNat + values.pageSize.toNat) maxRow

/-- The row after `n` rows. -/
def rowAfter (n : Nat) : Nat := min (n + 1) maxRow

/-- Each placeholder with its text, in the order in which they are filled in: a placeholder comes
before those that it begins with, and the body comes last. -/
def substitutions (values : PageValues) : List (String × String) := [
  ("$SKIP_ROWS_PLUS1", toString (rowAfter values.skipRows.toNat)),
  ("$TOTAL_ROWS_PLUS1", toString (rowAfter values.totalRows)),
  ("$SKIP_ROWS", toString values.skipRows.toNat),
  ("$TOTAL_ROWS", toString values.totalRows),
  ("$PAGESIZE", toString values.pageSize.toNat),
  ("$FIELDS_OR_ALIAS", values.fields),
  ("($DISTINCT) ", if values.distinct then "distinct " else ""),
  ("($DISTINCT)", if values.distinct then "distinct" else ""),
  ("$BODY", values.body)]

end PageValues

/-- Fills in the placeholders one after the other, each wherever it then occurs. -/
def Template.fill (template : String) (values : PageValues) : String :=
  values.substitutions.foldl (fun text (placeholder, value) =>
    Text.replaceAll placeholder value text) template

end PolySql
