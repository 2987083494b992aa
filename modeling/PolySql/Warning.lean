import PolySql.Dialect
import PolySql.Text.Join

/-!
# Warnings

A dialect may lack a feature that a table can do without. The statements then leave it out, and a
`Warning` says which one it was.
-/

namespace PolySql

/-- An optional part of a table that was left out. -/
inductive Skipped where
  | columnCheck (column : String)
  | tableCheck
  | columnComment (column : String)
  | tableComment
  deriving DecidableEq, Repr

/-- The column that the part belongs to, if it belongs to one. -/
def Skipped.column? : Skipped → Option String
  | .columnCheck column | .columnComment column => some column
  | .tableCheck | .tableComment => none

structure Warning where
  dialect : Dialect
  table : String
  skipped : Skipped
  /-- The expression or the comment that was left out. -/
  text : String
  deriving DecidableEq, Repr

open Text in
/-- The text of a warning. -/
def Warning.message (warning : Warning) : String :=
  let place (feature subject : String) :=
    "Ignored unsupported " ++ feature ++ " setting for dialect " ++ quoted warning.dialect.name ++
      " on " ++ subject ++ " with value: " ++ warning.text
  let table := "table " ++ quoted warning.table
  match warning.skipped with
  | .columnCheck column => place "check" ("column " ++ quoted column ++ " in " ++ table)
  | .tableCheck => place "table check" table
  | .columnComment column => place "comment" ("column " ++ quoted column ++ " in " ++ table)
  | .tableComment => place "table comment" table

end PolySql
