import PolySql.Dialect.Features
import PolySql.Table

/-!
# Parts of table statements

* `Dialect.columnDefinition` — a column inside a CREATE TABLE statement.
* `Dialect.uniqueStatement?` — the statement that makes a column unique.
* `commentOnTable`, `commentOnColumn` — COMMENT ON statements.
-/

namespace PolySql

/-- The clause for a column of some type. -/
def IdentityClause.forType (clause : IdentityClause) (type : ColumnType) : String :=
  if type = .bigint then clause.bigintText else clause.text

/-- The name of a column with its type, then either its identity clause or its default and
whether it takes null values. -/
def Dialect.columnDefinition (dialect : Dialect) (table : String) (column : Column) :
    Except Error String :=
  if column.identity then
    match dialect.features.identity with
    | none => .error (.identityUnsupported dialect table column.name)
    | some clause =>
      let clauseText := " " ++ clause.forType column.type
      if clause.writesType then
        (dialect.spell column.type column.lengths).map fun type =>
          column.name ++ " " ++ type ++ clauseText
      else .ok (column.name ++ clauseText)
  else
    (dialect.spell column.type column.lengths).map fun type =>
      column.name ++ " " ++ type ++
        (match column.defaultValue with
          | some value => " default " ++ value
          | none => "") ++
        if column.notNull then " not null" else dialect.features.nullMark

/-- The name of the unique constraint of a column. -/
def Column.constraintName (column : Column) (table : String) : String :=
  column.uniqueName.getD ("UK_" ++ table ++ "_" ++ column.name)

/-- The statement that makes a column unique, if it is to be unique. -/
def Dialect.uniqueStatement? (dialect : Dialect) (table : String) (column : Column) :
    Option String :=
  if column.unique then
    let name := column.constraintName table
    some <|
      match dialect.family with
      | .db2 | .derby =>
        "create unique index " ++ name ++ " on " ++ table ++ " (" ++ column.name ++ ");"
      | .informix =>
        "alter table " ++ table ++ " add constraint unique (" ++ column.name ++ ") constraint " ++
          name ++ ";"
      | .mySql =>
        "alter table " ++ table ++ " add unique index " ++ name ++ " (" ++ column.name ++ ");"
      | _ =>
        "alter table " ++ table ++ " add constraint " ++ name ++ " unique (" ++ column.name ++ ");"
  else none

def commentOnTable (table comment : String) : String :=
  "comment on table " ++ table ++ " is " ++ Text.literal comment ++ ";"

def commentOnColumn (table column comment : String) : String :=
  "comment on column " ++ table ++ "." ++ column ++ " is " ++ Text.literal comment ++ ";"

end PolySql
