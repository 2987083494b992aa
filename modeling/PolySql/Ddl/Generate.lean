import PolySql.Ddl.Layout
import PolySql.Ddl.Log
import PolySql.Ddl.Statement

/-!
# Statements for tables

For each table there is a CREATE TABLE statement, then one statement for each unique column, then
the COMMENT ON statements. A name, a type or an identity column that the dialect does not take is
an error, and there are no statements. Other features that the dialect lacks are left out and
reported.

* `Generated` — statements, and the warnings about what they leave out.
* `Options`, `Generator` — how statements are generated.
* `Draft`, `Generator.draft` — a CREATE TABLE statement as it is written from left to right.
* `Generator.render`, `Generator.finish` — the statements of one table, and what is done to all of
  them at the end.
* `Generator.generate`, `Generator.generateAll` — the statements of one table and of several.
-/

namespace PolySql

structure Generated where
  /-- In the order in which they are to be run. -/
  statements : List String := []
  warnings : List Warning := []
  deriving DecidableEq, Repr

def Generated.append (a b : Generated) : Generated :=
  ⟨a.statements ++ b.statements, a.warnings ++ b.warnings⟩

theorem Generated.append_assoc (a b c : Generated) :
    (a.append b).append c = a.append (b.append c) := by
  simp [Generated.append]

structure Options where
  /-- Whether statements are laid out for reading. -/
  format : Bool := false
  /-- Whether a feature that is left out is an error. -/
  strict : Bool := false
  deriving DecidableEq, Repr

structure Generator where
  dialect : Dialect
  nameCheck : NameCheck := .keywords
  options : Options := {}
  deriving DecidableEq, Repr

/-- An expression that is more than blanks. -/
def notBlank? (text : Option String) : Option String := text.filter fun s => !Text.allBlank s

/-- A CREATE TABLE statement under way. -/
structure Draft where
  /-- What has been written so far. -/
  text : String
  /-- Statements about comments that come after the table. -/
  deferred : List String := []
  warnings : List Warning := []

namespace Draft

def write (draft : Draft) (text : String) : Draft := { draft with text := draft.text ++ text }

def defer (draft : Draft) (statement : String) : Draft :=
  { draft with deferred := draft.deferred ++ [statement] }

/-- Leaves a feature out and says so. -/
def skip (draft : Draft) (warning : Warning) : Logged Draft := do
  Logged.report (.skipped warning)
  return { draft with warnings := draft.warnings ++ [warning] }

end Draft

/-- A text without the comma at its end, if there is one. -/
def dropLastComma (text : String) : String :=
  if text.toList.getLast? = some ',' then String.ofList text.toList.dropLast else text

namespace Generator

/-! ## Names -/

/-- The names that a table puts into statements. -/
def identifiers (table : Table) : List String :=
  table.name :: table.columnList.flatMap fun column =>
    column.name :: (column.primaryKeyName.toList ++ column.uniqueName.toList)

def checkNames (generator : Generator) (table : Table) : Except Error Unit :=
  (identifiers table).forM (generator.nameCheck.check generator.dialect)

/-! ## The CREATE TABLE statement -/

def primaryKeys (table : Table) : List String :=
  (table.columnList.filter (·.primaryKey)).map (·.name)

/-- The statement up to its first definition. -/
def opening (generator : Generator) (table : Table) : String :=
  let features := generator.dialect.features
  (if (primaryKeys table).isEmpty then features.createKeyless else features.createKeyed) ++ " " ++
    table.name ++ " ("

def warn (generator : Generator) (table : String) (skipped : Skipped) (text : String) : Warning :=
  ⟨generator.dialect, table, skipped, text⟩

def writeColumnCheck (generator : Generator) (table : String) (column : Column) (draft : Draft) :
    Logged Draft :=
  match notBlank? column.check with
  | none => pure draft
  | some check =>
    if generator.dialect.features.columnCheck then pure (draft.write (" check (" ++ check ++ ")"))
    else draft.skip (generator.warn table (.columnCheck column.name) check)

def writeColumnComment (generator : Generator) (table : String) (column : Column)
    (draft : Draft) : Logged Draft :=
  match column.comment with
  | none => pure draft
  | some comment =>
    match generator.dialect.features.columnComment with
    | some form => pure (draft.write (form.write comment))
    | none =>
      if generator.dialect.features.commentOn then
        pure (draft.defer (commentOnColumn table column.name comment))
      else draft.skip (generator.warn table (.columnComment column.name) comment)

/-- A column, and a comma after it. -/
def writeColumn (generator : Generator) (table : String) (draft : Draft) (column : Column) :
    Logged Draft := do
  let definition ← Logged.ofExcept (generator.dialect.columnDefinition table column)
  let draft ← generator.writeColumnCheck table column (draft.write definition)
  let draft ← generator.writeColumnComment table column draft
  return draft.write ","

def writeColumns (generator : Generator) (table : String) : List Column → Draft → Logged Draft
  | [], draft => pure draft
  | column :: columns, draft => do
    let draft ← generator.writeColumn table draft column
    generator.writeColumns table columns draft

/-- The primary key, and a comma after it. -/
def writePrimaryKey (table : Table) (draft : Draft) : Draft :=
  match primaryKeys table with
  | [] => draft
  | keys => draft.write (" primary key (" ++ Text.joinWith "," keys ++ "),")

/-- The check of the table, and a comma after it. -/
def writeTableCheck (generator : Generator) (table : Table) (draft : Draft) : Logged Draft :=
  match notBlank? table.check with
  | none => pure draft
  | some check =>
    if generator.dialect.features.tableCheck then pure (draft.write (" check (" ++ check ++ "),"))
    else draft.skip (generator.warn table.name .tableCheck check)

/-- The comment of the table: in a statement of its own, or inside this one. -/
def writeTableComment (generator : Generator) (table : Table) (draft : Draft) :
    Logged (Draft × Option String) :=
  match table.comment with
  | none => pure (draft, none)
  | some comment =>
    if generator.dialect.features.commentOn then
      pure (draft, some (commentOnTable table.name comment))
    else
      match generator.dialect.features.tableComment with
      | some form => pure (draft.write (form.write comment), none)
      | none => do
        let draft ← draft.skip (generator.warn table.name .tableComment comment)
        return (draft, none)

/-- The closing parenthesis in place of the last comma, and the engine. -/
def closeDefinitions (generator : Generator) (draft : Draft) : Draft :=
  { draft with text := dropLastComma draft.text ++ ")" ++ generator.dialect.features.engine }

/-- The whole CREATE TABLE statement, and the statement about the comment of the table. -/
def draft (generator : Generator) (table : Table) : Logged (Draft × Option String) := do
  let draft ← generator.writeColumns table.name table.columnList { text := generator.opening table }
  let draft ← generator.writeTableCheck table (writePrimaryKey table draft)
  let (draft, comment) ← generator.writeTableComment table (generator.closeDefinitions draft)
  return (draft.write ";", comment)

/-! ## Statements -/

/-- The statements of one table, as they are before the options are looked at. -/
def render (generator : Generator) (table : Table) : Logged Generated := do
  Logged.ofExcept (generator.checkNames table)
  let (draft, comment) ← generator.draft table
  let unique := table.columnList.filterMap (generator.dialect.uniqueStatement? table.name)
  let statements := draft.text :: unique ++ comment.toList ++ draft.deferred
  Logged.report
    (.tableDone generator.dialect table.name statements.length draft.warnings.length)
  return ⟨statements, draft.warnings⟩

/-- What the options ask for: no warnings, or a layout. -/
def finish (generator : Generator) (generated : Generated) : Except Error Generated :=
  if generator.options.strict ∧ generated.warnings ≠ [] then
    .error (.skippedFeatures generated.warnings)
  else if generator.options.format then
    .ok { generated with statements := generated.statements.map layout }
  else .ok generated

/-- The statements of several tables, one table after the other. -/
def renderAll (generator : Generator) : List Table → Logged Generated
  | [] => pure {}
  | table :: tables => do
    let first ← generator.render table
    let rest ← generator.renderAll tables
    return first.append rest

def generateLogged (generator : Generator) (table : Table) : Logged Generated := do
  let generated ← generator.render table
  Logged.ofExcept (generator.finish generated)

def generateAllLogged (generator : Generator) (tables : List Table) : Logged Generated := do
  let generated ← generator.renderAll tables
  Logged.ofExcept (generator.finish generated)

/-- The statements of a table, or why there are none. -/
def generate (generator : Generator) (table : Table) : Except Error Generated :=
  (generator.generateLogged table).result

/-- The statements of some tables, or why there are none. -/
def generateAll (generator : Generator) (tables : List Table) : Except Error Generated :=
  (generator.generateAllLogged tables).result

end Generator

end PolySql
