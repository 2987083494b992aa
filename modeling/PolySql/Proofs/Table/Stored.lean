import PolySql.Proofs.Table.KeyedList
import PolySql.Schema

/-!
# What is stored is read back

* `record`, `fields?_record` — an object that leaves out the fields without a value is read back
  field by field.
* `LawfulStored` — the types whose values are read back as they were written; lengths and columns
  are among them.
* `ofJson?_toJson_table` — a stored table comes back as its columns, added one by one.
* `Table.Keyed` — a table whose columns have keys of their own; such a table comes back as it was
  (`ofColumns_of_keyed`).
-/

namespace PolySql

open Json

/-! ## Records -/

namespace Stored

/-- The members of an object with some fields; a field without a value is left out. -/
def record (fields : List (String × Option Json)) : List (JsonText × Json) :=
  fields.filterMap fun field => field.2.map fun json => (some field.1, json)

theorem record_append (fields more : List (String × Option Json)) :
    record (fields ++ more) = record fields ++ record more := List.filterMap_append

theorem filter_record_of_not_mem {name : String} {fields : List (String × Option Json)}
    (h : name ∉ fields.map Prod.fst) :
    (record fields).filter (fun entry => entry.1 == some name) = [] := by
  rw [List.filter_eq_nil_iff]
  intro entry hentry hname
  obtain ⟨field, hfield, hsome⟩ := List.mem_filterMap.1 hentry
  obtain ⟨json, -, rfl⟩ := Option.map_eq_some_iff.1 hsome
  apply h
  have hfst : field.1 = name := by simpa using hname
  exact List.mem_map.2 ⟨field, hfield, hfst⟩

/-- A field is found under its name. -/
theorem member?_record {fields : List (String × Option Json)} (hnames : (fields.map Prod.fst).Nodup)
    {name : String} {value : Option Json} (h : (name, value) ∈ fields) :
    member? name (record fields) = some value := by
  obtain ⟨front, back, rfl⟩ := List.append_of_mem h
  have hdistinct : name ∉ front.map Prod.fst ∧ name ∉ back.map Prod.fst := by
    rw [List.map_append, List.map_cons, List.nodup_append] at hnames
    obtain ⟨-, hback, hfront⟩ := hnames
    exact ⟨fun hmem => hfront _ hmem _ List.mem_cons_self rfl, (List.nodup_cons.1 hback).1⟩
  have hfilter : (record (front ++ (name, value) :: back)).filter
      (fun entry => entry.1 == some name) = value.toList.map fun json => (some name, json) := by
    rw [← List.singleton_append, record_append, record_append, List.filter_append,
      List.filter_append, filter_record_of_not_mem hdistinct.1,
      filter_record_of_not_mem hdistinct.2]
    cases value <;> simp [record]
  unfold member?
  rw [hfilter]
  cases value <;> rfl

theorem mapM_fst {β γ : Type} {f : β → Option γ} :
    ∀ {fields : List (β × γ)}, (∀ field ∈ fields, f field.1 = some field.2) →
      (fields.map Prod.fst).mapM f = some (fields.map Prod.snd)
  | [], _ => rfl
  | field :: fields, h => by
    have hrest := mapM_fst fun other hother => h other (List.mem_cons_of_mem field hother)
    rw [List.map_cons, List.mapM_cons, h field List.mem_cons_self, hrest]
    rfl

/-- **A record is read back field by field.** -/
theorem fields?_record {fields : List (String × Option Json)} {names : List String}
    (hfields : fields.map Prod.fst = names) (hnames : names.Nodup) :
    fields? names (.object (record fields)) = some (fields.map Prod.snd) := by
  subst hfields
  have hwhole : (record fields).all (fun entry => entry.1.isSome) = true := by
    rw [List.all_eq_true]
    intro entry hentry
    obtain ⟨field, -, hsome⟩ := List.mem_filterMap.1 hentry
    obtain ⟨json, -, rfl⟩ := Option.map_eq_some_iff.1 hsome
    rfl
  rw [fields?, members?, if_pos hwhole]
  exact mapM_fst fun field hfield => member?_record hnames hfield

/-! ## Values -/

end Stored

/-- What is written for a value is read back as that value, and is not null. -/
class LawfulStored (α : Type) [Stored α] : Prop where
  ofJson?_toJson : ∀ a : α, (Stored.ofJson? (Stored.toJson a) : Option α) = some a
  toJson_ne_null : ∀ a : α, Stored.toJson a ≠ .null

namespace Stored

instance : LawfulStored String := ⟨ofJson?_toJson_string, nofun⟩

instance : LawfulStored Bool := ⟨ofJson?_toJson_bool, nofun⟩

instance : LawfulStored UInt32 := ⟨ofJson?_toJson_uint32, nofun⟩

instance : LawfulStored ColumnType := ⟨ofJson?_toJson_type, nofun⟩

section

variable {α : Type} [Stored α]

theorem optionalMember_eq_record (name : String) (a : Option α) :
    optionalMember name a = record [(name, a.map toJson)] := by
  cases a <;> rfl

/-- A list is read back if each of its values is. -/
theorem mapM_toJson_of_forall {as : List α}
    (h : ∀ a ∈ as, (ofJson? (toJson a) : Option α) = some a) :
    (as.map toJson).mapM ofJson? = some as := by
  induction as with
  | nil => rfl
  | cons a as ih =>
    obtain ⟨ha, has⟩ := List.forall_mem_cons.1 h
    rw [List.map_cons, List.mapM_cons, ha, ih has]
    rfl

variable [LawfulStored α]

theorem required_toJson (a : α) : required (some (toJson a)) = some a :=
  LawfulStored.ofJson?_toJson a

theorem orDefault_toJson (default a : α) : orDefault default (some (toJson a)) = some a :=
  LawfulStored.ofJson?_toJson a

theorem optional_toJson (a : Option α) : optional (a.map toJson) = some a := by
  cases a with
  | none => rfl
  | some a =>
    have hread := LawfulStored.ofJson?_toJson a
    have hnull := LawfulStored.toJson_ne_null a
    unfold optional
    split
    · rename_i h
      cases h
    · rename_i h
      exact absurd (Option.some.inj h) hnull
    · rename_i json _ h
      obtain rfl : toJson a = json := Option.some.inj h
      rw [hread]
      rfl

theorem mapM_toJson (as : List α) : (as.map toJson).mapM ofJson? = some as :=
  mapM_toJson_of_forall fun a _ => LawfulStored.ofJson?_toJson a

instance : LawfulStored (List α) := ⟨mapM_toJson, nofun⟩

end

/-! ## Lengths and columns -/

/-- The fields of stored lengths. -/
def lengthsRecord (lengths : Lengths) : List (String × Option Json) := [
  ("length", lengths.length.map toJson), ("precision", lengths.precision.map toJson),
  ("scale", lengths.scale.map toJson)]

theorem toJson_lengths (lengths : Lengths) :
    toJson lengths = .object (record (lengthsRecord lengths)) := by
  change Json.object (_ ++ _ ++ _) = _
  simp only [optionalMember_eq_record, ← record_append]
  rfl

theorem ofJson?_toJson_lengths (lengths : Lengths) :
    (ofJson? (toJson lengths) : Option Lengths) = some lengths := by
  rw [toJson_lengths]
  have hfields :
      fields? ["length", "precision", "scale"] (.object (record (lengthsRecord lengths))) =
        some ((lengthsRecord lengths).map Prod.snd) := fields?_record rfl (by decide)
  simp only [ofJson?, hfields]
  simp only [lengthsRecord, List.map_cons, List.map_nil, bind, Option.bind, optional_toJson, pure]

instance : LawfulStored Lengths := ⟨ofJson?_toJson_lengths, nofun⟩

/-- The fields of a stored column. -/
def columnRecord (column : Column) : List (String × Option Json) := [
  ("name", some (toJson column.name)), ("type", some (toJson column.type)),
  ("lengths", some (toJson column.lengths)), ("pkey", some (toJson column.primaryKey)),
  ("pkey_name", column.primaryKeyName.map toJson), ("identity", some (toJson column.identity)),
  ("not_null", some (toJson column.notNull)), ("unique", some (toJson column.unique)),
  ("unique_constraint_name", column.uniqueName.map toJson),
  ("default_value", column.defaultValue.map toJson), ("check", column.check.map toJson),
  ("comment", column.comment.map toJson), ("id_generator", column.idGenerator.map toJson)]

theorem toJson_column (column : Column) :
    toJson column = .object (record (columnRecord column)) := by
  have hfront : [member "name" column.name, member "type" column.type,
      member "lengths" column.lengths, member "pkey" column.primaryKey] =
        record ((columnRecord column).take 4) := rfl
  have hmiddle : [member "identity" column.identity, member "not_null" column.notNull,
      member "unique" column.unique] = record (((columnRecord column).drop 5).take 3) := rfl
  change Json.object (_ ++ _ ++ _ ++ _ ++ _ ++ _ ++ _ ++ _) = _
  rw [hfront, hmiddle]
  simp only [optionalMember_eq_record, ← record_append]
  rfl

theorem ofJson?_toJson_column (column : Column) :
    (ofJson? (toJson column) : Option Column) = some column := by
  rw [toJson_column]
  have hfields : fields? columnFields (.object (record (columnRecord column))) =
      some ((columnRecord column).map Prod.snd) := fields?_record rfl (by decide)
  simp only [ofJson?, hfields]
  simp only [columnRecord, List.map_cons, List.map_nil, bind, Option.bind, required_toJson,
    orDefault_toJson, optional_toJson, pure]

instance : LawfulStored Column where
  ofJson?_toJson := ofJson?_toJson_column
  toJson_ne_null column := by rw [toJson_column]; nofun

/-! ## Tables -/

/-- The fields of a stored table. -/
def tableRecord (table : Table) : List (String × Option Json) := [
  ("name", some (toJson table.name)), ("columns", some (toJson table.columnList)),
  ("check", table.check.map toJson), ("comment", table.comment.map toJson)]

theorem toJson_table (table : Table) : toJson table = .object (record (tableRecord table)) := by
  have hfront : [member "name" table.name, member "columns" table.columnList] =
      record ((tableRecord table).take 2) := rfl
  change Json.object (_ ++ _ ++ _) = _
  rw [hfront]
  simp only [optionalMember_eq_record, ← record_append]
  rfl

/-- **A stored table comes back as its columns, added one by one.** -/
theorem ofJson?_toJson_table (table : Table) :
    (ofJson? (toJson table) : Option Table) =
      some (Table.ofColumns table.name table.columnList table.check table.comment) := by
  rw [toJson_table]
  have hfields : fields? ["name", "columns", "check", "comment"]
      (.object (record (tableRecord table))) = some ((tableRecord table).map Prod.snd) :=
    fields?_record rfl (by decide)
  simp only [ofJson?, hfields]
  simp only [tableRecord, List.map_cons, List.map_nil, bind, Option.bind, required_toJson,
    orDefault_toJson, optional_toJson, pure]

end Stored

/-! ## Tables whose columns have keys of their own -/

/-- Each column is held under its name in upper case, and no key is held twice. -/
structure Table.Keyed (table : Table) : Prop where
  held : ∀ entry ∈ table.columns.entries, entry.1 = Text.upper entry.2.name
  distinct : table.columns.keys.Nodup

namespace Table

theorem entries_foldl_addColumn {columns : List Column} {table : Table}
    (hdistinct : (table.columns.keys ++ columns.map fun column => Text.upper column.name).Nodup) :
    columns.foldl addColumn table = { table with columns := ⟨table.columns.entries ++
      columns.map fun column => (Text.upper column.name, column)⟩ } := by
  induction columns generalizing table with
  | nil => simp
  | cons column columns ih =>
    have hnew : Text.upper column.name ∉ table.columns.entries.map Prod.fst := by
      rw [List.nodup_append] at hdistinct
      intro hmem
      exact hdistinct.2.2 _ hmem _ (by simp) rfl
    have hadd : table.addColumn column = { table with columns :=
        ⟨table.columns.entries ++ [(Text.upper column.name, column)]⟩ } := by
      unfold addColumn KeyedList.insert Column.key
      rw [KeyedList.insertEntry_of_not_mem hnew]
    rw [List.foldl_cons, hadd, ih]
    · simp
    · simpa [KeyedList.keys] using hdistinct

/-- **A table whose columns have keys of their own is its columns, added one by one.** -/
theorem ofColumns_of_keyed {table : Table} (h : table.Keyed) :
    ofColumns table.name table.columnList table.check table.comment = table := by
  have hkeys : table.columnList.map (fun column => (Text.upper column.name, column)) =
      table.columns.entries := by
    unfold columnList KeyedList.values
    rw [List.map_map]
    conv => rhs; rw [← List.map_id table.columns.entries]
    apply List.map_congr_left
    intro entry hentry
    exact Prod.ext (h.held entry hentry).symm rfl
  have hdistinct : (table.columnList.map fun column => Text.upper column.name).Nodup := by
    have hfst := congrArg (List.map Prod.fst) hkeys
    rw [List.map_map] at hfst
    have := h.distinct
    rw [KeyedList.keys, ← hfst] at this
    exact this
  unfold ofColumns
  rw [entries_foldl_addColumn (by simpa [empty, KeyedList.keys] using hdistinct), hkeys]
  rfl

end Table

end PolySql
