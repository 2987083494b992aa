import PolySql.Proofs.Ddl.Definitions
import PolySql.Proofs.Ddl.Outcome
import PolySql.Proofs.Layout.Definitions

/-!
# A line for each definition

A layout has to find the parentheses and commas of a CREATE TABLE statement among those of names,
types, checks, defaults and comments. It finds them wherever the texts of the table close what they
open.

* `collapsed` — a text without superfluous blanks.
* `Dialect.header`, `Dialect.tableCommentText` — how a statement begins, and the comment of the
  table if it stands inside.
* `Dialect.tableLines` — the statement with each definition on a line.
* `exists_clauses` — what stands behind the definitions holds no blank and no semicolon that a
  layout would move.
* `toList_createTable`, `toList_tableLines` — the statement and its lines by their parts;
  `layout_createTable` — the one is laid out as the other.

Principal result: `layout_generate` — the CREATE TABLE statement of a table is laid out with one
line for each column, for the primary key and for the check, and no line besides.
-/

namespace PolySql

open Text Layout

/-- A text without superfluous blanks outside quotes. -/
def collapsed (s : String) : String := String.ofList (collapse s.toList)

theorem toList_joinWith_lines : ∀ texts : List String,
    (joinWith ",\n" (texts.map ("    " ++ ·))).toList = lines (texts.map String.toList)
  | [] => rfl
  | [s] => by simp [joinWith, lines, indent]
  | s :: t :: texts => by
    have hrest := toList_joinWith_lines (t :: texts)
    simp only [List.map_cons] at hrest ⊢
    rw [joinWith_cons_cons, String.toList_append, String.toList_append, hrest]
    simp [lines, indent]

namespace Dialect

/-- The words that begin the CREATE TABLE statement of a table. -/
def header (dialect : Dialect) (table : Table) : String :=
  if table.columnList.any (·.primaryKey) then dialect.features.createKeyed
  else dialect.features.createKeyless

/-- The comment of a table inside its CREATE TABLE statement, if it stands there. -/
def tableCommentText (dialect : Dialect) (table : Table) : String :=
  if dialect.features.commentOn then ""
  else (inlineComment dialect.features.tableComment table.comment).getD ""

/-- The CREATE TABLE statement of a table with each of its definitions on a line. -/
def tableLines (dialect : Dialect) (table : Table) (columns : List String) : String :=
  collapsed (dialect.header table ++ " " ++ table.name) ++ " (\n" ++
    joinWith ",\n" ((dialect.definitions table columns).map fun definition =>
      "    " ++ collapsed definition) ++ "\n)" ++
    dialect.features.engine ++ dialect.tableCommentText table ++ ";"

theorem header_eq (dialect : Dialect) (table : Table) :
    dialect.header table = "create table" ∨ dialect.header table = "create column table" ∨
      dialect.header table = "create row table" ∨
      dialect.header table = "create multiset table" := by
  unfold header
  split
  · rcases dialect.createKeyed_eq with h | h | h
    · exact .inl h
    · exact .inr (.inl h)
    · exact .inr (.inr (.inl h))
  · exact dialect.createKeyless_eq

theorem isHeader (dialect : Dialect) (table : Table) : Header (dialect.header table).toList := by
  rcases dialect.header_eq table with h | h | h | h <;> rw [h] <;>
    exact ⟨by decide, by decide, by decide, by decide, by decide⟩

theorem engine_eq (dialect : Dialect) :
    dialect.features.engine = "" ∨ dialect.features.engine = " type=InnoDB" ∨
      dialect.features.engine = " type=MyISAM" ∨ dialect.features.engine = " engine=InnoDB" := by
  cases dialect <;>
    first
    | exact .inl rfl
    | exact .inr (.inl rfl)
    | exact .inr (.inr (.inl rfl))
    | exact .inr (.inr (.inr rfl))

/-- A word that may stand behind the definitions of a statement. -/
def IsClause (w : List Char) : Prop := Layout.Word w ∧ w.head? ≠ some ';'

theorem exists_engine (dialect : Dialect) :
    ∃ words : List (List Char), (∀ w ∈ words, IsClause w) ∧
      dialect.features.engine.toList = words.flatMap (' ' :: ·) := by
  rcases dialect.engine_eq with h | h | h | h <;> rw [h]
  · exact ⟨[], by simp, rfl⟩
  · exact ⟨["type=InnoDB".toList], List.forall_mem_singleton.2
      ⟨.of_bare (by decide) (by decide), by decide⟩, by decide⟩
  · exact ⟨["type=MyISAM".toList], List.forall_mem_singleton.2
      ⟨.of_bare (by decide) (by decide), by decide⟩, by decide⟩
  · exact ⟨["engine=InnoDB".toList], List.forall_mem_singleton.2
      ⟨.of_bare (by decide) (by decide), by decide⟩, by decide⟩

theorem exists_tableComment (dialect : Dialect) (table : Table) :
    ∃ words : List (List Char), (∀ w ∈ words, IsClause w) ∧
      (dialect.tableCommentText table).toList = words.flatMap (' ' :: ·) := by
  have hnone : ∃ words : List (List Char), (∀ w ∈ words, IsClause w) ∧
      "".toList = words.flatMap (' ' :: ·) := ⟨[], by simp, rfl⟩
  unfold tableCommentText
  split
  · exact hnone
  · cases hform : dialect.features.tableComment with
    | none => exact hnone
    | some form =>
      cases table.comment with
      | none => exact hnone
      | some comment =>
        have hword : IsClause ("comment=".toList ++ (literal comment).toList) :=
          ⟨.append (.of_bare (by decide) (by decide)) (.of_literal comment), by simp⟩
        refine ⟨[_], List.forall_mem_singleton.2 hword, ?_⟩
        show (form.write comment).toList = _
        rw [tableForm_write hform]
        simp

/-- Behind the definitions there are clauses. -/
theorem exists_clauses (dialect : Dialect) (table : Table) :
    ∃ words : List (List Char), (∀ w ∈ words, IsClause w) ∧
      (dialect.features.engine ++ dialect.tableCommentText table ++ ";").toList =
        clauses words := by
  obtain ⟨engine, hengine, hengineText⟩ := dialect.exists_engine
  obtain ⟨comment, hcomment, hcommentText⟩ := dialect.exists_tableComment table
  refine ⟨engine ++ comment, fun w hw => ?_, ?_⟩
  · exact (List.mem_append.1 hw).elim (hengine w) (hcomment w)
  · rw [String.toList_append, String.toList_append, hengineText, hcommentText, clauses,
      List.flatMap_append]
    rfl

/-! ## The statement laid out -/

section CreateTable

variable {dialect : Dialect} {table : Table} {columns : List String} {words : List (List Char)}

theorem toList_createTable
    (hwords : (dialect.features.engine ++ dialect.tableCommentText table ++ ";").toList =
      clauses words) :
    (dialect.createTable table columns).toList =
      createText ((dialect.header table).toList ++ ' ' :: table.name.toList)
        ((dialect.definitions table columns).map String.toList) words := by
  have htext : dialect.createTable table columns =
      dialect.header table ++ " " ++ table.name ++ " (" ++
        joinWith "," (dialect.definitions table columns) ++ ")" ++
        (dialect.features.engine ++ dialect.tableCommentText table ++ ";") := by
    simp only [createTable, header, tableCommentText, String.append_assoc]
  rw [htext, createText, ← hwords, ← toList_joinWith_comma]
  simp only [String.toList_append]
  simp

theorem toList_tableLines
    (hwords : (dialect.features.engine ++ dialect.tableCommentText table ++ ";").toList =
      clauses words) :
    (dialect.tableLines table columns).toList =
      createLines (collapse ((dialect.header table).toList ++ ' ' :: table.name.toList))
        (((dialect.definitions table columns).map String.toList).map collapse)
        (clauses words) := by
  have htexts : ((dialect.definitions table columns).map String.toList).map collapse =
      ((dialect.definitions table columns).map collapsed).map String.toList := by
    simp [collapsed]
  have hlines : (joinWith ",\n" ((dialect.definitions table columns).map fun definition =>
      "    " ++ collapsed definition)).toList =
        lines (((dialect.definitions table columns).map String.toList).map collapse) := by
    rw [htexts, ← toList_joinWith_lines, List.map_map]
    rfl
  have hheader : (collapsed (dialect.header table ++ " " ++ table.name)).toList =
      collapse ((dialect.header table).toList ++ ' ' :: table.name.toList) := by
    simp [collapsed]
  rw [tableLines, createLines, ← hwords, ← hlines, ← hheader]
  simp

/-- **A CREATE TABLE statement is laid out with a line for each definition**, if the texts of the
table close what they open. -/
theorem layout_createTable (hcloses : dialect.Closes table) (hname : ¬Blanks table.name.toList)
    (hcolumns : table.columnList.mapM (dialect.columnText table.name) = .ok columns)
    (hne : columns ≠ []) :
    layout (dialect.createTable table columns) = dialect.tableLines table columns := by
  obtain ⟨words, hwords, hclauses⟩ := dialect.exists_clauses table
  have hopening := Opening.of_header (dialect.isHeader table) hcloses.name.closer hname
    (toOpening_eq_none_iff.2 hcloses.nameOpening)
  have hdefinitions : ∀ d ∈ (dialect.definitions table columns).map String.toList,
      Undivided literalQuotes d := by
    intro d hd
    obtain ⟨definition, hdefinition, rfl⟩ := List.mem_map.1 hd
    exact onePiece_iff.1 (onePiece_definitions hcloses hcolumns definition hdefinition)
  have hsome : (dialect.definitions table columns).map String.toList ≠ [] := by
    simp [definitions, hne]
  rw [layout, toList_createTable hclauses,
    layoutCollapsed_createText hopening hsome hdefinitions hwords, ← toList_tableLines hclauses,
    String.ofList_toList]

/-- There is a definition for each column, for the primary key and for the check. -/
theorem length_definitions
    (hcolumns : table.columnList.mapM (dialect.columnText table.name) = .ok columns) :
    (dialect.definitions table columns).length = table.columnList.length +
      (if table.columnList.any (·.primaryKey) then 1 else 0) +
      (if dialect.features.tableCheck && (notBlank? table.check).isSome then 1 else 0) := by
  have hkey : (primaryKeyClause table).toList.length =
      if table.columnList.any (·.primaryKey) then 1 else 0 := by
    unfold primaryKeyClause
    split <;> rfl
  have hcheck : (checkClause dialect.features.tableCheck table.check).toList.length =
      if dialect.features.tableCheck && (notBlank? table.check).isSome then 1 else 0 := by
    unfold checkClause
    cases dialect.features.tableCheck with
    | false => rfl
    | true => cases notBlank? table.check <;> rfl
  rw [definitions, List.length_append, List.length_append, length_of_mapM hcolumns, hkey, hcheck]

end CreateTable

end Dialect

namespace Generator

variable {generator : Generator} {table : Table} {generated : Generated}

/-- A table that has statements has a name that is not blank. -/
theorem TakesNames.visible (h : generator.TakesNames table) : ¬Blanks table.name.toList :=
  fun hblank => h table.name List.mem_cons_self _ (.blank hblank)

/-- **A CREATE TABLE statement is laid out with exactly one line for each definition**: for each
column, for the primary key and for the check of the table, in this order. No type, clause, comment
or list of keys is broken, whatever commas it holds: nothing is asked of the dialect, and of the
table no more than that its texts close what they open. -/
theorem layout_generate (hrun : generator.generate table = .ok generated)
    (hsome : table.columnList ≠ []) (hcloses : generator.dialect.Closes table) :
    ∃ columns, table.columnList.mapM (generator.dialect.columnText table.name) = .ok columns ∧
      generated.statements.head? = some (if generator.options.format
        then layout (generator.dialect.createTable table columns)
        else generator.dialect.createTable table columns) ∧
      layout (generator.dialect.createTable table columns) =
        generator.dialect.tableLines table columns ∧
      (generator.dialect.definitions table columns).length = table.columnList.length +
        (if table.columnList.any (·.primaryKey) then 1 else 0) +
        (if generator.dialect.features.tableCheck && (notBlank? table.check).isSome
          then 1 else 0) := by
  obtain ⟨result, houtcome⟩ := exists_outcome generator table
  have hresult : result = .ok generated := (generate_of_outcome houtcome).symm.trans hrun
  cases houtcome with
  | name _ => cases hresult
  | column _ _ => cases hresult
  | strict _ _ _ _ => cases hresult
  | @done columns hnames _ _ hcolumns =>
    obtain rfl := Except.ok.inj hresult
    have hne : columns ≠ [] := by
      rw [← List.length_pos_iff, length_of_mapM hcolumns, List.length_pos_iff]
      exact hsome
    refine ⟨columns, hcolumns, ?_, ?_, Dialect.length_definitions hcolumns⟩
    · cases generator.options.format <;> rfl
    · exact Dialect.layout_createTable hcloses hnames.visible hcolumns hne

/-- A table with commas in a type, in a default and in a comment. -/
def prices : Table :=
  Table.ofColumns "t"
    [{ name := "a", type := .decimal, lengths := .ofPrecision 5 2, primaryKey := true,
       defaultValue := some "abs(1,  2)", comment := some "b, (" }]
    none none

theorem closes_prices : Dialect.Closes .mySql57 prices where
  name := by decide
  nameOpening := by decide
  column := by decide
  defaultValue := by decide
  columnCheck := fun _ _ _ hsupported => nomatch hsupported
  tableCheck := fun _ hsupported => nomatch hsupported

theorem layout_generate_prices : ∃ generated columns,
    generate { dialect := .mySql57, options := { format := true } } prices = .ok generated ∧
    generated.statements = [Dialect.tableLines .mySql57 prices columns] ∧
    Dialect.tableLines .mySql57 prices columns =
      "create table t (\n    a decimal(5,2) default abs(1, 2) comment 'b, (',\n" ++
        "    primary key (a)\n) engine=InnoDB;" ∧
    (Dialect.definitions .mySql57 prices columns).length = 2 := by
  have hstatements : (generate { dialect := .mySql57, options := { format := true } }
      prices).toOption.map (·.statements) = some [
        "create table t (\n    a decimal(5,2) default abs(1, 2) comment 'b, (',\n" ++
          "    primary key (a)\n) engine=InnoDB;"] := by
    decide +kernel
  cases hrun : generate { dialect := .mySql57, options := { format := true } } prices with
  | error e =>
    rw [hrun] at hstatements
    cases hstatements
  | ok generated =>
    rw [hrun] at hstatements
    obtain ⟨columns, -, hhead, hlayout, hlength⟩ := layout_generate hrun (by decide) closes_prices
    have hlines : generated.statements = [_] := Option.some.inj hstatements
    rw [hlines, List.head?_cons, if_pos rfl, hlayout] at hhead
    have htext := Option.some.inj hhead
    exact ⟨generated, columns, rfl, htext ▸ hlines, htext.symm, hlength⟩

end Generator

end PolySql
