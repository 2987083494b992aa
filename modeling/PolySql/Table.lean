import PolySql.Table.Column
import PolySql.Table.KeyedList

/-!
# Tables

* `Table` — a name, columns in order, and perhaps a check and a comment.
* `Table.addColumn`, `Table.removeColumn`, `Table.column?`, `Table.edit` — a column is found by its
  name in any letter case; a column that is added under the name of another takes its place.
-/

namespace PolySql

structure Table where
  name : String
  /-- Each column under the key of its name. -/
  columns : KeyedList Column := {}
  check : Option String := none
  comment : Option String := none
  deriving DecidableEq, Repr

namespace Table

/-- A table without columns. -/
def empty (name : String) : Table := { name }

/-- The columns in order. -/
def columnList (table : Table) : List Column := table.columns.values

def column? (table : Table) (name : String) : Option Column := table.columns.get? (Column.key name)

def addColumn (table : Table) (column : Column) : Table :=
  { table with columns := table.columns.insert (Column.key column.name) column }

def removeColumn (table : Table) (name : String) : Table :=
  { table with columns := table.columns.erase (Column.key name) }

/-- Changes the column of a name; without such a column nothing changes. The error is that of the
first change that is refused. -/
def edit (table : Table) (name : String) (settings : List Setting) : Table × Option Error :=
  match table.column? name with
  | none => (table, none)
  | some column =>
    let (changed, error) := column.setAll settings
    ({ table with columns := table.columns.modify (Column.key name) fun _ => changed }, error)

def setCheck (table : Table) (expression : String) : Table :=
  { table with check := some expression }

def setComment (table : Table) (text : String) : Table := { table with comment := some text }

/-- The table of some columns, added one by one. -/
def ofColumns (name : String) (columns : List Column) (check comment : Option String) : Table :=
  { columns.foldl addColumn (empty name) with check, comment }

/-! ## What becomes of the columns -/

theorem column?_addColumn (table : Table) (column : Column) :
    (table.addColumn column).column? column.name = some column :=
  table.columns.get?_insert _ _

/-- Adding a column leaves alone every column of another key. -/
theorem column?_addColumn_of_ne (table : Table) (column : Column) {name : String}
    (h : Column.key name ≠ Column.key column.name) :
    (table.addColumn column).column? name = table.column? name :=
  table.columns.get?_insert_of_ne _ h

theorem keys_removeColumn (table : Table) (name : String) :
    (table.removeColumn name).columns.keys = table.columns.keys.erase (Column.key name) :=
  table.columns.keys_erase _

end Table

end PolySql
