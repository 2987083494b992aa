import PolySql.Proofs.Ddl.CommentLiterals
import PolySql.Proofs.Ddl.OptionalParts
import PolySql.Proofs.Text.Undivided

/-!
# Definitions are one piece each

The definitions of a CREATE TABLE statement are put together from the texts of the table and from
those of the dialect. If the first close what they open, no comma of a definition is one between two
definitions.

* `OnePiece` — a text that closes what it opens and that no comma cuts (`onePiece_iff`).
* `Spelling.rules`, `onePiece_of_typeRule?` — whatever a dialect calls a type is one piece, also with
  the lengths filled in (`onePiece_write`).
* `onePiece_identity`, `onePiece_nullMark`, `onePiece_check` — so are the other clauses.
* `Dialect.Closes` — what is asked of the texts of a table.

Principal result: `onePiece_definitions` — every definition is one piece.
-/

namespace PolySql

open Text

/-- A text that closes what it opens, and in which every comma stands in quotes or in
parentheses. -/
structure OnePiece (s : String) : Prop where
  level : Level literalQuotes s.toList
  commas : ∀ x y, s.toList = x ++ ',' :: y → ¬Level literalQuotes x

theorem onePiece_iff {s : String} : OnePiece s ↔ Undivided literalQuotes s.toList :=
  ⟨fun h => (undivided_iff literalQuotes_proper).2 ⟨h.level, h.commas⟩, fun h =>
    ⟨h.level, ((undivided_iff literalQuotes_proper).1 h).2⟩⟩

instance : DecidablePred OnePiece := fun _ => decidable_of_iff _ onePiece_iff.symm

namespace OnePiece

theorem append {s t : String} (hs : OnePiece s) (ht : OnePiece t) : OnePiece (s ++ t) := by
  rw [onePiece_iff, String.toList_append]
  exact (onePiece_iff.1 hs).append (onePiece_iff.1 ht)

theorem literal (s : String) : OnePiece (literal s) :=
  onePiece_iff.2 (.of_covered literalQuotes_proper (covered_literal s))

/-- In parentheses, commas do not count. -/
theorem append_parens {front s : String} (hfront : OnePiece front)
    (h : Level literalQuotes s.toList) : OnePiece (front ++ "(" ++ s ++ ")") := by
  have hparens := (onePiece_iff.1 hfront).append (.parens literalQuotes_proper h)
  rw [onePiece_iff]
  simpa using hparens

end OnePiece

/-! ## Types -/

/-- The spellings of a rule: the ordinary one, and that of longer types. -/
def TypeRule.texts (rule : TypeRule) : List String :=
  rule.template :: (rule.ceiling.map Prod.snd).toList

/-- The rules of all dialects. -/
def Spelling.rules : List (ColumnType → Option TypeRule) := [
  sqlite, desktop, cache, cubrid, db2, derby, firebird false, firebird true, frontBase, h2 false,
  h2 true, hana, informix, ingres false, ingres true, jDataStore, mySql 255, mySql 65535, mckoi,
  mimer, oracle false, oracle true, pointbase, postgres, progress, rdms, sapDb,
  sqlServer false false, sqlServer true false, sqlServer true true, sybase false, sybase true,
  teradata false, teradata true, timesTen]

theorem Dialect.typeRule?_mem (dialect : Dialect) : dialect.typeRule? ∈ Spelling.rules := by
  cases dialect <;> simp [typeRule?, family, Spelling.rules]

/-- **No comma of a type stands outside parentheses**, whatever a dialect calls it. -/
theorem onePiece_rules : ∀ rules ∈ Spelling.rules, ∀ type ∈ ColumnType.all,
    (rules type).all (fun rule => rule.texts.all fun text => decide (OnePiece text)) = true := by
  decide +kernel

theorem onePiece_of_typeRule? {dialect : Dialect} {type : ColumnType} {rule : TypeRule}
    (h : dialect.typeRule? type = some rule) : ∀ text ∈ rule.texts, OnePiece text := by
  intro text htext
  have hrule := onePiece_rules _ dialect.typeRule?_mem type type.mem_all
  rw [h, Option.all_some, List.all_eq_true] at hrule
  exact of_decide_eq_true (hrule text htext)

/-- Digits in place of a letter move no parenthesis and no comma. -/
theorem skeleton_replaceAll_digits {pat : String} (hne : pat.toList ≠ [])
    (hpat : skeleton pat.toList = []) (n : Nat) (s : String) :
    skeleton (replaceAll pat (toString n) s).toList = skeleton s.toList := by
  have hdigits : skeleton (toString n).toList = [] := by
    have htoDigits : (toString n).toList = Nat.toDigits 10 n := Nat.toList_repr
    rw [htoDigits]
    refine List.filter_eq_nil_iff.2 fun c hc => ?_
    have hdigit := Nat.isDigit_of_mem_toDigits (by decide) (by decide) hc
    intro hsteers
    simp only [steers, Bool.or_eq_true, beq_iff_eq] at hsteers
    rcases hsteers with ((hquote | rfl) | rfl) | rfl
    · obtain ⟨e, he⟩ := Option.isSome_iff_exists.1 hquote
      rcases (literalQuotes_eq_some he).2 with rfl | rfl | rfl <;> cases hdigit
    all_goals cases hdigit
  rw [replaceAll, String.toList_ofList, skeleton_replaceFrom hne hpat hdigits, List.drop_zero]

theorem onePiece_write {rule : TypeRule} (h : ∀ text ∈ rule.texts, OnePiece text)
    (lengths : Lengths) : OnePiece (rule.write lengths) := by
  have hchosen : OnePiece (rule.chosen lengths.lengthOrDefault) := by
    unfold TypeRule.chosen
    split
    · rename_i longest beyond hceiling
      split
      · exact h beyond (by simp [TypeRule.texts, hceiling])
      · exact h rule.template List.mem_cons_self
    · exact h rule.template List.mem_cons_self
  refine onePiece_iff.2 ((onePiece_iff.1 hchosen).of_skeleton_eq ?_)
  rw [TypeRule.write, skeleton_replaceAll_digits (by decide) (by decide),
    skeleton_replaceAll_digits (by decide) (by decide),
    skeleton_replaceAll_digits (by decide) (by decide)]

/-- **The spelling of a type is one piece.** -/
theorem onePiece_spell {dialect : Dialect} {type : ColumnType} {lengths : Lengths} {text : String}
    (h : dialect.spell type lengths = .ok text) : OnePiece text := by
  obtain ⟨rule, hrule, rfl⟩ := Option.map_eq_some_iff.1 (orError_eq_ok_iff.1 h)
  exact onePiece_write (onePiece_of_typeRule? hrule) lengths

/-! ## Clauses -/

/-- The features of all dialects. -/
def Features.all : List Features := [
  sqlite, access, desktop, cache, cubrid, db2, derby, standard, h2, hanaColumn, hanaRow, hsql,
  informix, ingres, jDataStore, mySql, mySqlTypeInnoDb, mySqlTypeMyIsam, mySqlEngineInnoDb, mckoi,
  mimer, oracle, oracle12c, postgres, sqlServer, sybaseAnywhere, teradata, teradata14, timesTen]

theorem Dialect.features_mem (dialect : Dialect) : dialect.features ∈ Features.all := by
  cases dialect <;> simp [features, Features.all]

theorem onePiece_features : ∀ features ∈ Features.all, OnePiece features.nullMark ∧
    (features.identity.all fun clause =>
      decide (OnePiece clause.text ∧ OnePiece clause.bigintText)) = true := by
  decide +kernel

theorem onePiece_nullMark (dialect : Dialect) : OnePiece dialect.features.nullMark :=
  (onePiece_features _ dialect.features_mem).1

theorem onePiece_identity {dialect : Dialect} {clause : IdentityClause}
    (h : dialect.features.identity = some clause) (type : ColumnType) :
    OnePiece (clause.forType type) := by
  have hclauses := (onePiece_features _ dialect.features_mem).2
  rw [h, Option.all_some] at hclauses
  obtain ⟨htext, hbigint⟩ := of_decide_eq_true hclauses
  unfold IdentityClause.forType
  split
  · exact hbigint
  · exact htext

theorem onePiece_check {supported : Bool} {check : Option String}
    (h : ∀ text, supported = true → notBlank? check = some text → Level literalQuotes text.toList)
    {clause : String} (hclause : checkClause supported check = some clause) : OnePiece clause := by
  unfold checkClause at hclause
  split at hclause
  · rename_i hsupported
    obtain ⟨text, htext, rfl⟩ := Option.map_eq_some_iff.1 hclause
    have hword : OnePiece " check " := by decide
    simpa using hword.append_parens (h text hsupported htext)
  · cases hclause

/-! ## The definitions of a table -/

theorem Text.toList_joinWith_comma : ∀ texts : List String,
    (joinWith "," texts).toList = commaJoin (texts.map String.toList)
  | [] => rfl
  | [s] => rfl
  | s :: t :: texts => by
    have hrest := toList_joinWith_comma (t :: texts)
    rw [joinWith_cons_cons, String.toList_append, String.toList_append, hrest]
    simp [commaJoin]

section MapM

variable {α β ε : Type} {f : α → Except ε β} {list : List α} {results : List β}

theorem mapM_cons_eq_ok_iff {a : α} :
    (a :: list).mapM f = .ok results ↔
      ∃ b bs, f a = .ok b ∧ list.mapM f = .ok bs ∧ results = b :: bs := by
  rw [List.mapM_cons]
  cases hb : f a with
  | error e => simp [bind, Except.bind]
  | ok b =>
    cases hbs : list.mapM f with
    | error e => simp [bind, Except.bind]
    | ok bs => simp [bind, Except.bind, pure, Except.pure, eq_comm]

/-- Each result is that of one of the steps. -/
theorem exists_of_mem_mapM (h : list.mapM f = .ok results) {b : β} (hb : b ∈ results) :
    ∃ a ∈ list, f a = .ok b := by
  induction list generalizing results with
  | nil =>
    obtain rfl := Except.ok.inj h
    cases hb
  | cons a list ih =>
    obtain ⟨c, cs, hc, hcs, rfl⟩ := mapM_cons_eq_ok_iff.1 h
    rcases List.mem_cons.1 hb with rfl | hb
    · exact ⟨a, List.mem_cons_self, hc⟩
    · obtain ⟨x, hx, hfx⟩ := ih hcs hb
      exact ⟨x, List.mem_cons_of_mem a hx, hfx⟩

theorem length_of_mapM (h : list.mapM f = .ok results) : results.length = list.length := by
  induction list generalizing results with
  | nil =>
    obtain rfl := Except.ok.inj h
    rfl
  | cons a list ih =>
    obtain ⟨c, cs, -, hcs, rfl⟩ := mapM_cons_eq_ok_iff.1 h
    rw [List.length_cons, List.length_cons, ih hcs]

end MapM

/-- The texts of a table close what they open, those that stand outside parentheses hold no comma
outside of their own, and no parenthesis of the name of the table is unquoted. -/
structure Dialect.Closes (dialect : Dialect) (table : Table) : Prop where
  name : Level literalQuotes table.name.toList
  nameOpening : ('(', false) ∉ marks literalQuotes none table.name.toList
  column : ∀ column ∈ table.columnList, OnePiece column.name
  defaultValue : ∀ column ∈ table.columnList, ∀ value, column.defaultValue = some value →
    OnePiece value
  columnCheck : ∀ column ∈ table.columnList, ∀ check, dialect.features.columnCheck = true →
    notBlank? column.check = some check → Level literalQuotes check.toList
  tableCheck : ∀ check, dialect.features.tableCheck = true →
    notBlank? table.check = some check → Level literalQuotes check.toList

namespace Dialect

variable {dialect : Dialect} {table : Table}

theorem onePiece_columnDefinition {column : Column} (hname : OnePiece column.name)
    (hdefault : ∀ value, column.defaultValue = some value → OnePiece value)
    {tableName definition : String}
    (h : dialect.columnDefinition tableName column = .ok definition) : OnePiece definition := by
  have hspace : OnePiece " " := by decide
  unfold columnDefinition at h
  split at h
  · split at h
    · cases h
    · rename_i clause hclause
      have hidentity := hspace.append (onePiece_identity hclause column.type)
      dsimp only at h
      split at h
      · cases hspell : dialect.spell column.type column.lengths with
        | error e =>
          rw [hspell] at h
          cases h
        | ok type =>
          rw [hspell] at h
          obtain rfl := Except.ok.inj h
          exact ((hname.append hspace).append (onePiece_spell hspell)).append hidentity
      · obtain rfl := Except.ok.inj h
        exact hname.append hidentity
  · cases hspell : dialect.spell column.type column.lengths with
    | error e =>
      rw [hspell] at h
      cases h
    | ok type =>
      rw [hspell] at h
      obtain rfl := Except.ok.inj h
      refine (((hname.append hspace).append (onePiece_spell hspell)).append ?_).append ?_
      · have hword : OnePiece " default " := by decide
        split
        · rename_i value hsome
          exact hword.append (hdefault value hsome)
        · decide
      · split
        · decide
        · exact onePiece_nullMark dialect

theorem onePiece_columnText {column : Column} (hname : OnePiece column.name)
    (hdefault : ∀ value, column.defaultValue = some value → OnePiece value)
    (hcheck : ∀ check, dialect.features.columnCheck = true → notBlank? column.check = some check →
      Level literalQuotes check.toList) {tableName text : String}
    (h : dialect.columnText tableName column = .ok text) : OnePiece text := by
  unfold columnText at h
  cases hdefinition : dialect.columnDefinition tableName column with
  | error e =>
    rw [hdefinition] at h
    cases h
  | ok definition =>
    rw [hdefinition] at h
    obtain rfl := Except.ok.inj h
    have hnothing : OnePiece "" := by decide
    refine ((onePiece_columnDefinition hname hdefault hdefinition).append ?_).append ?_
    · cases hclause : checkClause dialect.features.columnCheck column.check with
      | none => exact hnothing
      | some clause => exact onePiece_check hcheck hclause
    · cases hform : dialect.features.columnComment with
      | none => exact hnothing
      | some form =>
        cases column.comment with
        | none => exact hnothing
        | some comment =>
          have hword : OnePiece " comment " := by decide
          show OnePiece (form.write comment)
          rw [columnForm_write hform]
          exact hword.append (.literal comment)

theorem onePiece_primaryKey (hnames : ∀ column ∈ table.columnList, OnePiece column.name)
    {clause : String} (h : primaryKeyClause table = some clause) : OnePiece clause := by
  unfold primaryKeyClause at h
  split at h
  · obtain rfl := Option.some.inj h
    generalize hnamesList : (table.columnList.filter (·.primaryKey)).map (·.name) = names
    have hlevel : Level literalQuotes (joinWith "," names).toList := by
      rw [toList_joinWith_comma]
      refine level_commaJoin literalQuotes_proper fun name hname => ?_
      subst hnamesList
      simp only [List.mem_map, List.mem_filter] at hname
      obtain ⟨_, ⟨column, ⟨hcolumn, -⟩, rfl⟩, rfl⟩ := hname
      exact (hnames column hcolumn).level
    have hwords : OnePiece " primary key " := by decide
    simpa using hwords.append_parens hlevel
  · cases h

/-- **Every definition is one piece.** -/
theorem onePiece_definitions (h : dialect.Closes table) {columns : List String}
    (hcolumns : table.columnList.mapM (dialect.columnText table.name) = .ok columns) :
    ∀ definition ∈ dialect.definitions table columns, OnePiece definition := by
  intro definition hdefinition
  rw [definitions, List.mem_append, List.mem_append] at hdefinition
  rcases hdefinition with (hdefinition | hdefinition) | hdefinition
  · obtain ⟨column, hcolumn, htext⟩ := exists_of_mem_mapM hcolumns hdefinition
    exact onePiece_columnText (h.column column hcolumn) (h.defaultValue column hcolumn)
      (h.columnCheck column hcolumn) htext
  · exact onePiece_primaryKey h.column (Option.mem_toList.1 hdefinition)
  · exact onePiece_check h.tableCheck (Option.mem_toList.1 hdefinition)

end Dialect

end PolySql
