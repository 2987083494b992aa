import PolySql.Ddl.Generate
import PolySql.Json.Reader
import PolySql.Json.Writer

/-!
# Stored schemas

Tables and their parts are stored as JSON. A record may be an object or an array of its values; an
object may have members that mean nothing here.

* `Stored` — what can be read from JSON and written back.
* Instances for column types, lengths, columns, tables, lists of tables, options, dialects, and
  large texts and binaries.
* `Schema.tables?` — the tables of a schema, which is an array of tables or one table.
* `Schema.load?` — the tables of the text of a schema file.
-/

namespace PolySql

class Stored (α : Type) where
  ofJson? : Json → Option α
  toJson : α → Json

namespace Stored

variable {α : Type}

/-! ## Fields -/

/-- A field that has to be there. -/
def required [Stored α] : Option Json → Option α
  | some json => ofJson? json
  | none => none

/-- A field that has a value of its own when it is left out. -/
def orDefault [Stored α] (default : α) : Option Json → Option α
  | some json => ofJson? json
  | none => some default

/-- A field that may be left out or null. -/
def optional [Stored α] : Option Json → Option (Option α)
  | none | some .null => some none
  | some json => (ofJson? json).map some

/-- A member for a value, and none for no value. -/
def optionalMember [Stored α] (name : String) : Option α → List (JsonText × Json)
  | some a => [(some name, toJson a)]
  | none => []

def member [Stored α] (name : String) (a : α) : JsonText × Json := (some name, toJson a)

/-! ## Single values -/

instance : Stored String where
  ofJson?
    | .text value => value
    | _ => none
  toJson s := .text (some s)

instance : Stored Bool where
  ofJson?
    | .bool value => some value
    | _ => none
  toJson b := .bool b

instance : Stored UInt32 where
  ofJson?
    | .natural n => if n < UInt32.size then some (UInt32.ofNat n) else none
    | _ => none
  toJson n := .natural n.toNat

instance : Stored UInt8 where
  ofJson?
    | .natural n => if n < UInt8.size then some (UInt8.ofNat n) else none
    | _ => none
  toJson n := .natural n.toNat

instance [Stored α] : Stored (List α) where
  ofJson?
    | .array items => items.mapM ofJson?
    | _ => none
  toJson as := .array (as.map toJson)

/-- The type of a name, which has to be written as the name is. -/
def typeNamed? (name : JsonText) : Option ColumnType :=
  name.bind fun name => ColumnType.all.find? fun type => type.name = name

/-- A column type is its name, or an object whose only member has that name and no value. -/
instance : Stored ColumnType where
  ofJson?
    | .text name => typeNamed? name
    | .object [(name, .null)] => typeNamed? name
    | _ => none
  toJson type := .text (some type.name)

instance : Stored Dialect where
  ofJson?
    | .text name => name.bind Dialect.find?
    | _ => none
  toJson dialect := .text (some dialect.name)

/-! What is written is read back. -/

theorem ofJson?_toJson_string (s : String) : (ofJson? (toJson s) : Option String) = some s := rfl

theorem ofJson?_toJson_bool (b : Bool) : (ofJson? (toJson b) : Option Bool) = some b := rfl

theorem ofJson?_toJson_uint32 (n : UInt32) : (ofJson? (toJson n) : Option UInt32) = some n := by
  simp [ofJson?, toJson, UInt32.toNat_lt_size n]

theorem ofJson?_toJson_type (type : ColumnType) :
    (ofJson? (toJson type) : Option ColumnType) = some type := by
  cases type <;> decide

/-! ## Records -/

instance : Stored Lengths where
  ofJson? json := do
    let [length, precision, scale] ← json.fields? ["length", "precision", "scale"] | none
    return {
      length := ← optional length
      precision := ← optional precision
      scale := ← optional scale }
  toJson lengths := .object <|
    optionalMember "length" lengths.length ++ optionalMember "precision" lengths.precision ++
      optionalMember "scale" lengths.scale

def columnFields : List String := [
  "name", "type", "lengths", "pkey", "pkey_name", "identity", "not_null", "unique",
  "unique_constraint_name", "default_value", "check", "comment", "id_generator"]

instance : Stored Column where
  ofJson? json := do
    let [name, type, lengths, primaryKey, primaryKeyName, identity, notNull, unique, uniqueName,
      defaultValue, check, comment, idGenerator] ← json.fields? columnFields | none
    return {
      name := ← required name
      type := ← required type
      lengths := ← orDefault {} lengths
      primaryKey := ← orDefault false primaryKey
      primaryKeyName := ← optional primaryKeyName
      identity := ← orDefault false identity
      notNull := ← orDefault false notNull
      unique := ← orDefault false unique
      uniqueName := ← optional uniqueName
      defaultValue := ← optional defaultValue
      check := ← optional check
      comment := ← optional comment
      idGenerator := ← optional idGenerator }
  toJson column := .object <|
    [member "name" column.name, member "type" column.type, member "lengths" column.lengths,
      member "pkey" column.primaryKey] ++
    optionalMember "pkey_name" column.primaryKeyName ++
    [member "identity" column.identity, member "not_null" column.notNull,
      member "unique" column.unique] ++
    optionalMember "unique_constraint_name" column.uniqueName ++
    optionalMember "default_value" column.defaultValue ++
    optionalMember "check" column.check ++
    optionalMember "comment" column.comment ++
    optionalMember "id_generator" column.idGenerator

/-- The columns of a stored table are added one by one, so of two with one key the later stays. -/
instance : Stored Table where
  ofJson? json := do
    let [name, columns, check, comment] ← json.fields? ["name", "columns", "check", "comment"]
      | none
    return Table.ofColumns (← required name) (← orDefault [] columns) (← optional check)
      (← optional comment)
  toJson table := .object <|
    [member "name" table.name, member "columns" table.columnList] ++
    optionalMember "check" table.check ++ optionalMember "comment" table.comment

instance : Stored Options where
  ofJson? json := do
    let [format, strict] ← json.fields? ["format", "strict"] | none
    return { format := ← orDefault false format, strict := ← orDefault false strict }
  toJson options := .object [member "format" options.format, member "strict" options.strict]

end Stored

namespace Schema

/-- The tables of an array of tables, or a single table. -/
def tables? (json : Json) : Option (List Table) :=
  (Stored.ofJson? json : Option (List Table)).or
    ((Stored.ofJson? json : Option Table).map fun table => [table])

/-- The tables of the text of a schema file. The file is read into memory as a whole, so every value
in it has to fit there, even one that means nothing. -/
def load? (text : String) : Option (List Table) := do
  let json ← Json.parse? text
  if json.isHeld then tables? json else none

end Schema

end PolySql
