import PolySql.Dialect

/-!
# Reserved words

* `Keyword.common` — the words that no dialect lets through.
* `Family.keywords` — the further words of a family.
* `Dialect.isReserved` — whether a word is reserved, in any letter case.
-/

namespace PolySql

namespace Keyword

/-- The words of the SQL standard. -/
def common : List String := [
  "ADD", "ALL", "ALTER", "AND", "ANY", "AS", "ASC", "AUTHORIZATION", "BETWEEN", "BY", "CASCADE",
  "CASE", "CAST", "CHECK", "COLUMN", "COMMIT", "CONSTRAINT", "CREATE", "CROSS", "CURRENT",
  "CURRENT_DATE", "CURRENT_TIME", "CURRENT_TIMESTAMP", "CURRENT_USER", "CURSOR", "DEFAULT",
  "DELETE", "DESC", "DISTINCT", "DROP", "ELSE", "END", "ESCAPE", "EXCEPT", "EXISTS", "FALSE",
  "FETCH", "FOR", "FOREIGN", "FROM", "FULL", "GRANT", "GROUP", "HAVING", "IN", "INNER", "INSERT",
  "INTERSECT", "INTO", "IS", "JOIN", "LEFT", "LIKE", "NATURAL", "NOT", "NULL", "OF", "ON", "OR",
  "ORDER", "OUTER", "PRIMARY", "REFERENCES", "REVOKE", "RIGHT", "ROLLBACK", "SELECT",
  "SESSION_USER", "SET", "SOME", "TABLE", "THEN", "TO", "TRUE", "UNION", "UNIQUE", "UPDATE",
  "USER", "USING", "VALUES", "VIEW", "WHEN", "WHERE", "WITH"]

def mySql : List String := [
  "DATABASE", "DATABASES", "DUAL", "INDEX", "KEY", "KEYS", "LIMIT", "LOCK", "REGEXP", "RLIKE",
  "SCHEMA", "SHOW", "UNSIGNED", "ZEROFILL"]

def oracle : List String := [
  "ACCESS", "AUDIT", "CLUSTER", "COMMENT", "CONNECT", "FILE", "LEVEL", "LONG", "MINUS", "MODE",
  "NUMBER", "RAW", "RESOURCE", "ROWID", "ROWNUM", "SESSION", "SIZE", "SYSDATE", "UID",
  "VARCHAR2"]

def postgres : List String := [
  "ANALYSE", "ANALYZE", "ILIKE", "LIMIT", "OFFSET", "RETURNING", "VERBOSE"]

def sqlServer : List String := [
  "BROWSE", "CLUSTERED", "DBCC", "IDENTITY", "NONCLUSTERED", "PERCENT", "PIVOT", "RULE",
  "TEXTSIZE", "TOP", "TRAN"]

def db2 : List String := [
  "LOCKSIZE", "NODENAME", "ROWNUMBER"]

end Keyword

/-- The reserved words of a family beside the common ones. -/
def Family.keywords : Family → List String
  | .mySql | .cubrid => Keyword.mySql
  | .oracle | .timesTen => Keyword.oracle
  | .postgres | .hana => Keyword.postgres
  | .sqlServer | .sybase => Keyword.sqlServer
  | .db2 | .derby => Keyword.db2
  | _ => []

/-- Whether a word, as it stands, is reserved. -/
def Dialect.isReserved (dialect : Dialect) (word : String) : Bool :=
  (Keyword.common ++ dialect.family.keywords).any fun keyword =>
    Text.sameIgnoringCase keyword word

end PolySql
