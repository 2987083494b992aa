import PolySql.IdGenerator
import PolySql.Lookup
import PolySql.Text.Upper

/-!
# Columns

* `Column` — what a schema says about a column.
* `Column.key` — the text by which a table tells its columns apart.
* `Setting`, `Column.set?`, `Column.setAll` — changes to a column, one or several. The name of a
  column never changes (`name_setAll`).
-/

namespace PolySql

structure Column where
  name : String
  type : ColumnType := .varchar
  lengths : Lengths := {}
  /-- Whether the column belongs to the primary key. -/
  primaryKey : Bool := false
  primaryKeyName : Option String := none
  /-- Whether the database generates the values. -/
  identity : Bool := false
  notNull : Bool := false
  unique : Bool := false
  /-- The name of the unique constraint; there is one without it too. -/
  uniqueName : Option String := none
  /-- The default value, as it is written in SQL. -/
  defaultValue : Option String := none
  check : Option String := none
  comment : Option String := none
  /-- The name of the generator that fills the column. -/
  idGenerator : Option String := none
  deriving DecidableEq, Repr

/-- A change to a column. -/
inductive Setting where
  | type (type : ColumnType)
  | typeNamed (name : String)
  | typeOfHost (host : HostType)
  /-- A type with a length; precision and scale are forgotten. -/
  | sized (type : ColumnType) (length : UInt32)
  /-- A decimal type; the length is forgotten. -/
  | decimal (precision scale : UInt32)
  | length (length : UInt32)
  | primaryKey
  | primaryKeyNamed (name : String)
  | identity
  | notNull
  | unique
  | uniqueNamed (name : String)
  | defaultValue (value : String)
  | check (expression : String)
  | comment (text : String)
  | idGenerator (name : String)
  deriving DecidableEq, Repr

namespace Column

/-- Names that differ in letter case only have one key. -/
def key (name : String) : String := Text.upper name

/-- The column with one change, or why the change is refused. -/
def set? (column : Column) : Setting → Except Error Column
  | .type type => .ok { column with type }
  | .typeNamed name => (ColumnType.ofName name).map fun type => { column with type }
  | .typeOfHost host => (ColumnType.ofHost host).map fun type => { column with type }
  | .sized type length => .ok { column with type, lengths := .ofLength length }
  | .decimal precision scale =>
    .ok { column with type := .decimal, lengths := .ofPrecision precision scale }
  | .length length =>
    .ok { column with lengths := { column.lengths with length := some length } }
  | .primaryKey => .ok { column with primaryKey := true }
  | .primaryKeyNamed name =>
    .ok { column with primaryKey := true, primaryKeyName := some name }
  | .identity => .ok { column with identity := true }
  | .notNull => .ok { column with notNull := true }
  | .unique => .ok { column with unique := true }
  | .uniqueNamed name => .ok { column with unique := true, uniqueName := some name }
  | .defaultValue value => .ok { column with defaultValue := some value }
  | .check expression => .ok { column with check := some expression }
  | .comment text => .ok { column with comment := some text }
  | .idGenerator name => .ok { column with idGenerator := some name }

/-- The column after the changes up to the first that is refused, and why that one is. -/
def setAll (column : Column) : List Setting → Column × Option Error
  | [] => (column, none)
  | setting :: settings =>
    match column.set? setting with
    | .ok changed => changed.setAll settings
    | .error error => (column, some error)

/-- The generator that the column names, if there is one of that name. -/
def generator? (column : Column) : Option IdGenerator := column.idGenerator.bind IdGenerator.find?

theorem name_of_set? {column changed : Column} {setting : Setting}
    (h : column.set? setting = .ok changed) : changed.name = column.name := by
  cases setting <;> simp only [set?, Except.ok.injEq] at h
  case typeNamed name => cases ht : ColumnType.ofName name <;> simp_all [Except.map]; simp [← h]
  case typeOfHost host => cases ht : ColumnType.ofHost host <;> simp_all [Except.map]; simp [← h]
  all_goals simp [← h]

/-- Changes leave the name alone. -/
theorem name_setAll (column : Column) (settings : List Setting) :
    (column.setAll settings).1.name = column.name := by
  induction settings generalizing column with
  | nil => rfl
  | cons setting settings ih =>
    rw [setAll]
    split
    · next changed h => rw [ih, name_of_set? h]
    · rfl

end Column

end PolySql
