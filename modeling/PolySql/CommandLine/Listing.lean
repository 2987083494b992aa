import PolySql.Lookup
import PolySql.Page.Template
import PolySql.Text.Join

/-!
# Listings

* `dialectListing` — all dialects with their families and what they can do with pages.
* `typeListing` — all column types with the spelling of a dialect.
-/

namespace PolySql.CommandLine

open Text

/-- What a dialect can do with pages: any page, the first rows, or nothing. -/
def pagingNote (dialect : Dialect) : String :=
  if dialect.pageTemplate?.isSome then "paged"
  else if dialect.topTemplate?.isSome then "top-n"
  else "-"

def dialectLine (dialect : Dialect) : String :=
  padEnd 28 dialect.name ++ " " ++ padEnd 10 dialect.family.name ++ " " ++ pagingNote dialect

/-- The type with the spelling that it has without lengths. -/
def typeLine (dialect : Dialect) (type : ColumnType) : String :=
  padEnd 14 type.name ++ " " ++ (dialect.spell? type {}).getD "-"

def dialectListing : String := joinWith "\n" (Dialect.all.map dialectLine)

def typeListing (dialect : Dialect) : String :=
  joinWith "\n" (ColumnType.all.map (typeLine dialect))

end PolySql.CommandLine
