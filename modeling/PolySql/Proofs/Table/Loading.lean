import PolySql.Proofs.Json.RoundTrip
import PolySql.Proofs.Table.History

/-!
# Schema files

* `Stored.plain_table` — what is written for a table is a plain value, so its text is read back.
* `Table.reachable_ofColumns` — a table of some columns can be built, so it is stored as it is.
* `ofJson?_disjoint` — no value is read both as a table and as an array of tables.
* `Schema.Loads` — a value is written as a text, and each text of it is loaded as some tables.
* `Schema.Survives` — what storage and schema files keep.

Principal result: `Schema.survives` — they keep it.
-/

namespace PolySql

open Json Stored

/-! ## What is written is plain -/

namespace Stored

variable {depth : Nat}

theorem plain_string (s : String) : Plain depth (toJson s) := .text

theorem plain_bool (b : Bool) : Plain depth (toJson b) := .bool

theorem plain_uint32 (n : UInt32) : Plain depth (toJson n) :=
  .natural (Nat.lt_trans n.toNat_lt_size (by decide))

theorem plain_type (type : ColumnType) : Plain depth (toJson type) := .text

theorem plain_list {α : Type} [Stored α] {as : List α} (h : ∀ a ∈ as, Plain depth (toJson a)) :
    Plain (depth + 1) (toJson as) := by
  refine .array fun item hitem => ?_
  obtain ⟨a, ha, rfl⟩ := List.mem_map.1 hitem
  exact h a ha

theorem plain_record {fields : List (String × Option Json)}
    (h : ∀ field ∈ fields, ∀ json, field.2 = some json → Plain depth json) :
    Plain (depth + 1) (.object (record fields)) := by
  have hentry : ∀ entry ∈ record fields, ∃ field ∈ fields,
      entry.1 = some field.1 ∧ field.2 = some entry.2 := by
    intro entry hentry
    obtain ⟨field, hfield, hsome⟩ := List.mem_filterMap.1 hentry
    obtain ⟨json, hjson, rfl⟩ := Option.map_eq_some_iff.1 hsome
    exact ⟨field, hfield, rfl, hjson⟩
  refine .object (fun entry hmem => ?_) fun entry hmem => ?_
  · obtain ⟨field, -, hname, -⟩ := hentry entry hmem
    exact ⟨_, hname⟩
  · obtain ⟨field, hfield, -, hjson⟩ := hentry entry hmem
    exact h field hfield _ hjson

theorem plain_lengths (lengths : Lengths) : Plain (depth + 1) (toJson lengths) := by
  rw [toJson_lengths]
  refine plain_record ?_
  simp [lengthsRecord, plain_uint32]

theorem plain_column (column : Column) : Plain (depth + 2) (toJson column) := by
  rw [toJson_column]
  refine plain_record ?_
  simp [columnRecord, plain_string, plain_type, plain_bool, plain_lengths]

/-- **What is written for a table is plain**, with four levels of nesting: the table, its columns,
a column and the lengths of its type. -/
theorem plain_table (table : Table) : Plain (depth + 4) (toJson table) := by
  have hcolumns : Plain (depth + 3) (toJson table.columnList) :=
    plain_list fun column _ => plain_column column
  rw [toJson_table]
  refine plain_record ?_
  simp [tableRecord, plain_string, hcolumns]

end Stored

/-! ## Tables of some columns -/

namespace Table

theorem Reachable.step {table next : Table} (h : table.Reachable) (operation : Operation)
    (hstep : table.step? operation = some next) : next.Reachable := by
  obtain ⟨name, history, hrun⟩ := h
  refine ⟨name, operation :: history, ?_⟩
  rw [run?, hrun]
  exact hstep

theorem reachable_foldl_addColumn {table : Table} (h : table.Reachable) (columns : List Column) :
    (columns.foldl addColumn table).Reachable := by
  induction columns generalizing table with
  | nil => exact h
  | cons column columns ih => exact ih (h.step (.add column) rfl)

theorem foldl_addColumn_eq (table : Table) (columns : List Column) :
    columns.foldl addColumn table =
      { table with columns := (columns.foldl addColumn table).columns } := by
  induction columns generalizing table with
  | nil => rfl
  | cons column columns ih =>
    rw [List.foldl_cons, ih]
    rfl

/-- The table of some columns can be built, whether their names are repeated or not. -/
theorem reachable_ofColumns (name : String) (columns : List Column)
    (check comment : Option String) : (ofColumns name columns check comment).Reachable := by
  have hempty : (empty name).Reachable := ⟨name, [], rfl⟩
  have hcolumns := reachable_foldl_addColumn hempty columns
  unfold ofColumns
  rw [foldl_addColumn_eq] at hcolumns ⊢
  cases check with
  | none =>
    cases comment with
    | none => exact hcolumns
    | some comment => exact hcolumns.step (.setComment comment) rfl
  | some check =>
    have hchecked := hcolumns.step (.setCheck check) rfl
    cases comment with
    | none => exact hchecked
    | some comment => exact hchecked.step (.setComment comment) rfl

/-- **A table that can be built is stored as it is.** -/
theorem Reachable.ofJson?_toJson {table : Table} (h : table.Reachable) :
    (ofJson? (toJson table) : Option Table) = some table := by
  rw [ofJson?_toJson_table, ofColumns_of_keyed h.keyed]

/-- A table that is read has a name, and is the table of some columns. -/
theorem exists_of_ofJson? {json : Json} {table : Table} (h : ofJson? json = some table) :
    ∃ name others,
      fields? ["name", "columns", "check", "comment"] json = some (some name :: others) ∧
        ∃ text columns check comment, ofJson? name = some text ∧
          table = ofColumns text columns check comment := by
  simp only [ofJson?, bind, Option.bind_eq_some_iff, pure] at h
  obtain ⟨fields, hfields, h⟩ := h
  split at h
  · simp only [Option.bind_eq_some_iff] at h
    obtain ⟨text, htext, columns, -, check, -, comment, -, h⟩ := h
    rename_i name _ _ _
    cases name with
    | none => cases htext
    | some name =>
      exact ⟨name, _, hfields, text, columns, check, comment, htext, (Option.some.inj h).symm⟩
  · cases h

/-- A table that is read can be built. -/
theorem reachable_of_ofJson? {json : Json} {table : Table} (h : ofJson? json = some table) :
    table.Reachable := by
  obtain ⟨-, -, -, text, columns, check, comment, -, rfl⟩ := exists_of_ofJson? h
  exact reachable_ofColumns text columns check comment

end Table

/-! ## The two shapes of a schema -/

/-- **No value is read both as an array of tables and as one table.** A table that is written as an
array begins with its name, and a name is no table. -/
theorem ofJson?_disjoint {json : Json} {tables : List Table} {table : Table}
    (htables : ofJson? json = some tables) : ofJson? json ≠ some table := by
  intro htable
  cases json with
  | array items =>
    obtain ⟨name, others, hfields, text, -, -, -, htext, -⟩ := Table.exists_of_ofJson? htable
    cases items with
    | nil => cases hfields
    | cons first items =>
      have hname : first = name := by
        simp only [fields?] at hfields
        split at hfields
        · exact Option.some.inj (List.cons.inj (Option.some.inj hfields)).1
        · cases hfields
      have hitems : (first :: items).mapM ofJson? = some tables := htables
      rw [List.mapM_cons, Option.bind_eq_bind, Option.bind_eq_some_iff] at hitems
      obtain ⟨t, ht, -⟩ := hitems
      subst hname
      cases first with
      | text => cases ht
      | _ => cases htext
  | _ => cases htables

namespace Schema

/-- The order in which the two shapes are tried does not matter. -/
theorem tables?_eq_some_iff {json : Json} {tables : List Table} :
    tables? json = some tables ↔
      ofJson? json = some tables ∨ ∃ table, ofJson? json = some table ∧ tables = [table] := by
  unfold tables?
  rw [Option.or_eq_some_iff, Option.map_eq_some_iff]
  constructor
  · rintro (h | ⟨-, table, h, rfl⟩)
    · exact .inl h
    · exact .inr ⟨table, h, rfl⟩
  · rintro (h | ⟨table, h, rfl⟩)
    · exact .inl h
    · refine .inr ⟨Option.eq_none_iff_forall_ne_some.2 fun tables htables => ?_, table, h, rfl⟩
      exact ofJson?_disjoint htables h

/-- The value is written as a text that holds it, and each text that holds it is loaded as the
tables. -/
def Loads (json : Json) (tables : List Table) : Prop :=
  Json.parse? json.write = some json ∧
    ∀ text, Json.parse? text = some json → load? text = some tables

theorem loads_of_plain {json : Json} {tables : List Table} (hplain : Plain depthLimit json)
    (htables : tables? json = some tables) : Loads json tables := by
  refine ⟨hplain.parse?_write, fun text htext => ?_⟩
  have hheld : json.isHeld = true := hplain.isHeldWithin
  unfold load?
  rw [htext, Option.bind_eq_bind, Option.bind_some, if_pos hheld, htables]

/-- What storage and schema files keep. -/
structure Survives : Prop where
  /-- A table that can be built is read back as it was written. -/
  table : ∀ table : Table, table.Reachable → ofJson? (toJson table) = some table
  /-- So is the table of any columns, of which those with one key have become one. -/
  folded : ∀ name columns check comment,
    ofJson? (toJson (Table.ofColumns name columns check comment)) =
      some (Table.ofColumns name columns check comment)
  /-- So is a table that was itself read. -/
  read : ∀ (json : Json) (table : Table), ofJson? json = some table →
    ofJson? (toJson table) = some table
  /-- No value has both shapes of a schema. -/
  oneShape : ∀ json : Json, (ofJson? json : Option (List Table)) = none ∨
    (ofJson? json : Option Table) = none
  /-- A schema has the tables of either shape, whichever is tried first. -/
  eitherShape : ∀ (json : Json) (tables : List Table), tables? json = some tables ↔
    ofJson? json = some tables ∨ ∃ table, ofJson? json = some table ∧ tables = [table]
  several : ∀ tables : List Table, (∀ table ∈ tables, table.Reachable) →
    Loads (toJson tables) tables
  single : ∀ table : Table, table.Reachable → Loads (toJson table) [table]

/-- **Tables survive storage, and no schema file can be read in two ways.** -/
theorem survives : Survives where
  table _ h := h.ofJson?_toJson
  folded name columns check comment :=
    (Table.reachable_ofColumns name columns check comment).ofJson?_toJson
  read _ _ h := (Table.reachable_of_ofJson? h).ofJson?_toJson
  oneShape json := by
    cases htables : (ofJson? json : Option (List Table)) with
    | none => exact .inl rfl
    | some tables =>
      exact .inr (Option.eq_none_iff_forall_ne_some.2 fun _ => ofJson?_disjoint htables)
  eitherShape _ _ := tables?_eq_some_iff
  several tables h := by
    have hread : (ofJson? (toJson tables) : Option (List Table)) = some tables :=
      mapM_toJson_of_forall fun table htable => (h table htable).ofJson?_toJson
    exact loads_of_plain (plain_list fun table _ => plain_table table)
      (tables?_eq_some_iff.2 (.inl hread))
  single table h :=
    loads_of_plain (plain_table table)
      (tables?_eq_some_iff.2 (.inr ⟨table, h.ofJson?_toJson, rfl⟩))

end Schema

end PolySql
