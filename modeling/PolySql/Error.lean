import PolySql.ColumnType
import PolySql.Warning

/-!
# Errors

* `Error` — why a name, a table or a query is refused.
* `Error.message` — the text that says so.
-/

namespace PolySql

inductive Error where
  /-- A host type has no column type. -/
  | unmappable (host : String)
  | unknownType (name : String)
  | unknownDialect (name : String)
  | reservedWord (identifier : String) (dialect : Dialect)
  | emptyIdentifier
  /-- The dialect has no columns whose values it generates. -/
  | identityUnsupported (dialect : Dialect) (table column : String)
  | typeUnsupported (dialect : Dialect) (type : ColumnType)
  /-- The dialect can neither page nor limit a query. -/
  | pagingUnsupported (dialect : Dialect)
  /-- The dialect can only return the first rows, as in the template. -/
  | topOnly (dialect : Dialect) (template : String)
  /-- The page has no number, no rows, or rows that cannot be numbered. -/
  | invalidPage (page size : UInt64)
  | notSelect (sql : String)
  /-- The names of the columns are needed and cannot be found. -/
  | noFromClause (body : String)
  /-- Features had to be left out where none may be. -/
  | skippedFeatures (warnings : List Warning)
  deriving DecidableEq, Repr

open Text in
/-- The text of an error. -/
def Error.message : Error → String
  | .unmappable host => "'" ++ host ++ "' can not map to a SQL type"
  | .unknownType name => "'" ++ name ++ "' is not a legal SQL column definition name"
  | .unknownDialect name => "Unknown dialect: '" ++ name ++ "'"
  | .reservedWord identifier dialect =>
    "'" ++ identifier ++ "' is a reserved word of " ++ dialect.name
  | .emptyIdentifier => "Identifier can not be empty"
  | .identityUnsupported dialect table column =>
    "Unsupported identity setting for dialect " ++ quoted dialect.name ++ " on column " ++
      quoted column ++ " in table " ++ quoted table
  | .typeUnsupported dialect type =>
    "Type " ++ type.name ++ " is not supported by " ++ dialect.name
  | .pagingUnsupported dialect =>
    "Dialect " ++ quoted dialect.name ++ " does not support physical pagination"
  | .topOnly dialect template =>
    "Dialect " ++ quoted dialect.name ++ " only supports top limit SQL, for example: " ++
      quoted template
  | .invalidPage page size =>
    "Invalid page " ++ toString page.toNat ++ " of size " ++ toString size.toNat
  | .notSelect sql => "Invalid SQL: expected a select statement: " ++ sql
  | .noFromClause body => "Invalid SQL: no top level from clause: " ++ body
  | .skippedFeatures warnings =>
    "DDL generation produced warnings in strict mode:\n" ++
      joinWith "\n" (warnings.map fun warning => "  - " ++ warning.message)

end PolySql
