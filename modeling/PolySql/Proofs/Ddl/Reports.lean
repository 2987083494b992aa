import PolySql.Proofs.Ddl.OptionalParts
import PolySql.Proofs.Ddl.SeveralTables

/-!
# What is reported along the way

A part that is left out is reported when it is come upon, and noted for the result. After an error
there is no result, and the reports stay.

* `Logged.warnings` — what was reported as left out.
* `Logged.Notes` — a step that succeeds has noted what it reported; `notes_generateAllLogged` says
  it of all steps together.
* `Generator.leftOut` — the warnings about those of some parts that a dialect has nowhere.
* `warnings_writeColumns`, `warnings_renderAll` — columns and tables are reported one after the
  other, up to the first that has a problem.
* `Generator.Fails` — how the statements of several tables fail, and what was reported before.

Principal results: `warnings_of_ok` — what is reported is what the result says was left out;
`exists_fails` and `warnings_of_fails` — an error comes about in one of three ways, and each leaves
its own reports.
-/

namespace PolySql

/-! ## Reports of a step -/

namespace Logged

variable {α β : Type}

/-- What was reported as left out. -/
def warnings (x : Logged α) : List Warning := x.events.filterMap Event.warning?

theorem warnings_bind_of_ok {x : Logged α} {a : α} (f : α → Logged β) (h : x.result = .ok a) :
    (x >>= f).warnings = x.warnings ++ (f a).warnings := by
  rw [bind_of_ok f h]
  exact List.filterMap_append

theorem warnings_bind_of_error {x : Logged α} {e : Error} (f : α → Logged β)
    (h : x.result = .error e) : (x >>= f).warnings = x.warnings := by
  rw [bind_of_error f h]
  rfl

/-- A step that succeeds has noted what was noted before it and what it reported. -/
def Notes (noted : α → List Warning) (before : List Warning) (x : Logged α) : Prop :=
  ∀ a, x.result = .ok a → noted a = before ++ x.warnings

section Notes

variable {noted : α → List Warning} {noted' : β → List Warning} {before : List Warning}

theorem notes_pure {a : α} (h : noted a = before) : Notes noted before (pure a : Logged α) := by
  rintro b hb
  rw [← Except.ok.inj hb, h]
  exact (List.append_nil before).symm

/-- A result that reports nothing has noted nothing. -/
theorem notes_ofExcept {result : Except Error α} (h : ∀ a, result = .ok a → noted a = before) :
    Notes noted before (ofExcept result) := by
  intro a ha
  rw [h a ha]
  exact (List.append_nil before).symm

theorem Notes.bind {x : Logged α} {f : α → Logged β} (hx : Notes noted before x)
    (hf : ∀ a, Notes noted' (noted a) (f a)) : Notes noted' before (x >>= f) := by
  intro b hb
  rw [result_bind] at hb
  cases h : x.result with
  | error e =>
    rw [h] at hb
    cases hb
  | ok a =>
    rw [h] at hb
    rw [warnings_bind_of_ok f h, hf a b hb, hx a h, List.append_assoc]

/-- What a step notes by itself may be put behind what was noted before. -/
theorem Notes.behind {x : Logged α} (hx : Notes noted [] x) (before : List Warning) :
    Notes (fun a => before ++ noted a) before x :=
  fun a ha => congrArg (before ++ ·) (hx a ha)

end Notes

end Logged

open Logged

/-! ## The steps of the writing -/

theorem Draft.notes_skip (draft : Draft) (warning : Warning) :
    Notes Draft.warnings draft.warnings (draft.skip warning) := by
  intro written h
  rw [← Except.ok.inj h]
  rfl

/-- A part is written, or else left out with a report. -/
theorem Draft.notes_write_or_skip (draft : Draft) {written : Draft} {supported : Bool}
    {warning : Warning} (h : written.warnings = draft.warnings) :
    Notes Draft.warnings draft.warnings
      (if supported then pure written else draft.skip warning) := by
  cases supported
  · exact draft.notes_skip warning
  · exact notes_pure h

namespace Generator

variable (generator : Generator)

theorem notes_writeColumnCheck (table : String) (column : Column) (draft : Draft) :
    Notes Draft.warnings draft.warnings (generator.writeColumnCheck table column draft) := by
  unfold writeColumnCheck
  cases notBlank? column.check with
  | none => exact notes_pure rfl
  | some check => exact draft.notes_write_or_skip (by rfl)

theorem notes_writeColumnComment (table : String) (column : Column) (draft : Draft) :
    Notes Draft.warnings draft.warnings (generator.writeColumnComment table column draft) := by
  unfold writeColumnComment
  cases column.comment with
  | none => exact notes_pure rfl
  | some comment =>
    cases generator.dialect.features.columnComment with
    | some form => exact notes_pure rfl
    | none => exact draft.notes_write_or_skip (by rfl)

theorem notes_writeColumn (table : String) (draft : Draft) (column : Column) :
    Notes Draft.warnings draft.warnings (generator.writeColumn table draft column) := by
  have hdefinition : Notes (fun _ => draft.warnings) draft.warnings
      (ofExcept (generator.dialect.columnDefinition table column)) := notes_ofExcept fun _ _ => rfl
  unfold writeColumn
  refine hdefinition.bind fun text => ?_
  refine (generator.notes_writeColumnCheck table column (draft.write text)).bind fun checked => ?_
  refine (generator.notes_writeColumnComment table column checked).bind fun commented => ?_
  exact notes_pure rfl

theorem notes_writeColumns (table : String) (columns : List Column) (draft : Draft) :
    Notes Draft.warnings draft.warnings (generator.writeColumns table columns draft) := by
  induction columns generalizing draft with
  | nil => exact notes_pure rfl
  | cons column columns ih => exact (generator.notes_writeColumn table draft column).bind ih

theorem notes_writeTableCheck (table : Table) (draft : Draft) :
    Notes Draft.warnings draft.warnings (generator.writeTableCheck table draft) := by
  unfold writeTableCheck
  cases notBlank? table.check with
  | none => exact notes_pure rfl
  | some check => exact draft.notes_write_or_skip (by rfl)

theorem notes_writeTableComment (table : Table) (draft : Draft) :
    Notes (fun written => written.1.warnings) draft.warnings
      (generator.writeTableComment table draft) := by
  unfold writeTableComment
  cases table.comment with
  | none => exact notes_pure rfl
  | some comment =>
    dsimp only
    split
    · exact notes_pure rfl
    · cases generator.dialect.features.tableComment with
      | some form => exact notes_pure rfl
      | none => exact (draft.notes_skip _).bind fun _ => notes_pure rfl

theorem warnings_writePrimaryKey (table : Table) (draft : Draft) :
    (writePrimaryKey table draft).warnings = draft.warnings := by
  unfold writePrimaryKey
  split <;> rfl

theorem notes_draft (table : Table) :
    Notes (fun written => written.1.warnings) [] (generator.draft table) := by
  unfold draft
  refine (generator.notes_writeColumns table.name table.columnList _).bind fun columns => ?_
  rw [← warnings_writePrimaryKey table columns]
  refine (generator.notes_writeTableCheck table _).bind fun checked => ?_
  exact (generator.notes_writeTableComment table (generator.closeDefinitions checked)).bind
    fun _ => notes_pure rfl

theorem notes_render (table : Table) :
    Notes Generated.warnings [] (generator.render table) := by
  have hnames : Notes (fun _ => []) [] (ofExcept (generator.checkNames table)) :=
    notes_ofExcept fun _ _ => rfl
  unfold render
  refine hnames.bind fun _ => ?_
  refine (generator.notes_draft table).bind fun written => ?_
  intro generated h
  rw [← Except.ok.inj h]
  exact (List.append_nil _).symm

theorem notes_renderAll (tables : List Table) :
    Notes Generated.warnings [] (generator.renderAll tables) := by
  induction tables with
  | nil => exact notes_pure rfl
  | cons table tables ih =>
    exact (generator.notes_render table).bind fun first =>
      (ih.behind first.warnings).bind fun _ => notes_pure rfl

/-- The options do not change what is noted. -/
theorem warnings_finish {generator : Generator} {generated finished : Generated}
    (h : generator.finish generated = .ok finished) : finished.warnings = generated.warnings := by
  rw [finish_eq] at h
  split at h
  · cases h
  · rw [← Except.ok.inj h]

theorem notes_generateAllLogged (tables : List Table) :
    Notes Generated.warnings [] (generator.generateAllLogged tables) :=
  (generator.notes_renderAll tables).bind fun _ => notes_ofExcept fun _ h => warnings_finish h

/-- **What is reported is what the result says was left out**, in the same order. -/
theorem warnings_of_ok {generator : Generator} {tables : List Table} {generated : Generated}
    (h : generator.generateAll tables = .ok generated) :
    (generator.generateAllLogged tables).warnings = generated.warnings :=
  (generator.notes_generateAllLogged tables generated h).symm

/-! ## What is reported before an error -/

/-- The warnings about those of some parts of a table that the dialect has nowhere. -/
def leftOut (table : String) (parts : List OptionalPart) : List Warning :=
  (generator.lacking parts).map (generator.warnOf table)

/-- The warnings about a table as a whole. -/
def leftOutOf (table : Table) : List Warning := generator.leftOut table.name table.optionalParts

theorem leftOut_append (table : String) (parts others : List OptionalPart) :
    generator.leftOut table (parts ++ others) =
      generator.leftOut table parts ++ generator.leftOut table others := by
  unfold leftOut
  rw [lacking_append, List.map_append]

variable {generator}

/-- A column that can be defined reports the parts that are left out. -/
theorem exists_writeColumn {table : String} {column : Column}
    (h : generator.dialect.columnProblem? table column = none) (draft : Draft) :
    ∃ written, (generator.writeColumn table draft column).result = .ok written ∧
      (generator.writeColumn table draft column).warnings =
        generator.leftOut table column.optionalParts := by
  rw [← Dialect.failure?_columnText, failure?_eq_none_iff] at h
  obtain ⟨text, htext⟩ := h
  have hresult := generator.result_writeColumn table column draft
  rw [htext] at hresult
  refine ⟨_, hresult, ?_⟩
  have hnoted := generator.notes_writeColumn table draft column _ hresult
  rw [leftOut, ← columnWarnings_eq]
  exact (List.append_cancel_left hnoted).symm

/-- A column that cannot be defined reports nothing. -/
theorem exists_error_writeColumn {table : String} {column : Column} {e : Error}
    (h : generator.dialect.columnProblem? table column = some e) (draft : Draft) :
    (generator.writeColumn table draft column).result = .error e ∧
      (generator.writeColumn table draft column).warnings = [] := by
  rw [← Dialect.failure?_columnText, failure?_eq_some_iff] at h
  have hdefinition : generator.dialect.columnDefinition table column = .error e := by
    unfold Dialect.columnText at h
    cases hdefinition : generator.dialect.columnDefinition table column with
    | error e' =>
      rw [hdefinition] at h
      exact h
    | ok definition =>
      rw [hdefinition] at h
      cases h
  unfold writeColumn
  rw [bind_of_error _ hdefinition]
  exact ⟨rfl, rfl⟩

/-- **Columns report what is left out up to the first that cannot be defined.** -/
theorem warnings_writeColumns {table : String} {front back : List Column} {column : Column}
    {e : Error} (hfront : ∀ c ∈ front, generator.dialect.columnProblem? table c = none)
    (h : generator.dialect.columnProblem? table column = some e) (draft : Draft) :
    (generator.writeColumns table (front ++ column :: back) draft).warnings =
      generator.leftOut table (front.flatMap Column.optionalParts) := by
  induction front generalizing draft with
  | nil =>
    obtain ⟨hresult, hwarnings⟩ := exists_error_writeColumn h draft
    exact (warnings_bind_of_error _ hresult).trans hwarnings
  | cons c front ih =>
    obtain ⟨hc, hfront⟩ := List.forall_mem_cons.1 hfront
    obtain ⟨written, hresult, hwarnings⟩ := exists_writeColumn hc draft
    rw [List.cons_append, writeColumns, warnings_bind_of_ok _ hresult, hwarnings, ih hfront,
      List.flatMap_cons, leftOut_append]

/-- A table without a problem reports the parts that are left out. -/
theorem exists_render {table : Table} (h : generator.problem? table = none) :
    ∃ generated, (generator.render table).result = .ok generated ∧
      (generator.render table).warnings = generator.leftOutOf table := by
  rw [← failure?_render, failure?_eq_none_iff] at h
  obtain ⟨generated, hgenerated⟩ := h
  refine ⟨generated, hgenerated, ?_⟩
  have hnoted := generator.notes_render table generated hgenerated
  rw [List.nil_append] at hnoted
  rw [← hnoted, leftOutOf, leftOut, ← warnings_eq]
  rw [result_render] at hgenerated
  cases hnames : generator.checkNames table with
  | error e =>
    rw [hnames] at hgenerated
    cases hgenerated
  | ok _ =>
    cases hcolumns : table.columnList.mapM (generator.dialect.columnText table.name) with
    | error e =>
      rw [hnames, hcolumns] at hgenerated
      cases hgenerated
    | ok columns =>
      rw [hnames, hcolumns] at hgenerated
      rw [← Except.ok.inj hgenerated]

theorem warnings_renderAll_append {before : List Table}
    (hbefore : ∀ table ∈ before, generator.problem? table = none) (rest : List Table) :
    (generator.renderAll (before ++ rest)).warnings =
      before.flatMap generator.leftOutOf ++ (generator.renderAll rest).warnings := by
  induction before with
  | nil => rfl
  | cons table before ih =>
    obtain ⟨htable, hbefore⟩ := List.forall_mem_cons.1 hbefore
    obtain ⟨first, hresult, hwarnings⟩ := exists_render htable
    rw [List.cons_append, renderAll, warnings_bind_of_ok _ hresult, hwarnings, List.flatMap_cons,
      List.append_assoc, ← ih hbefore]
    congr 1
    cases hrest : (generator.renderAll (before ++ rest)).result with
    | error e => exact warnings_bind_of_error _ hrest
    | ok generated => exact (warnings_bind_of_ok _ hrest).trans (List.append_nil _)

/-- **Tables report what is left out up to the first that has a problem**, and of that one what it
reports itself. -/
theorem warnings_renderAll {before after : List Table} {table : Table} {e : Error}
    (hbefore : ∀ earlier ∈ before, generator.problem? earlier = none)
    (h : generator.problem? table = some e) :
    (generator.renderAll (before ++ table :: after)).warnings =
      before.flatMap generator.leftOutOf ++ (generator.render table).warnings := by
  rw [← failure?_render, failure?_eq_some_iff] at h
  rw [warnings_renderAll_append hbefore, renderAll, warnings_bind_of_error _ h]

theorem failure?_ofExcept_checkNames (table : Table) :
    failure? (ofExcept (generator.checkNames table)).result =
      (identifiers table).findSome? generator.nameProblem? :=
  failure?_forM _ _

/-- A table with a name that is refused reports nothing. -/
theorem warnings_render_of_name {table : Table} {e : Error}
    (h : (identifiers table).findSome? generator.nameProblem? = some e) :
    (generator.render table).warnings = [] := by
  rw [← failure?_ofExcept_checkNames, failure?_eq_some_iff] at h
  exact warnings_bind_of_error _ h

/-- A table with a column that cannot be defined reports what the columns before it report. -/
theorem warnings_render_of_column {table : Table} {front back : List Column} {column : Column}
    {e : Error} (hnames : (identifiers table).findSome? generator.nameProblem? = none)
    (hsplit : table.columnList = front ++ column :: back)
    (hfront : ∀ c ∈ front, generator.dialect.columnProblem? table.name c = none)
    (h : generator.dialect.columnProblem? table.name column = some e) :
    (generator.render table).warnings =
      generator.leftOut table.name (front.flatMap Column.optionalParts) := by
  rw [← failure?_ofExcept_checkNames, failure?_eq_none_iff] at hnames
  have hcolumns : (generator.writeColumns table.name (front ++ column :: back)
      { text := generator.opening table }).result = .error e := by
    rw [result_writeColumns, ← failure?_eq_some_iff, failure?_map, failure?_mapM]
    simp only [Dialect.failure?_columnText]
    rw [List.findSome?_append, List.findSome?_eq_none_iff.2 hfront, Option.none_or,
      List.findSome?_cons, h]
  obtain ⟨_, hnames⟩ := hnames
  unfold render
  rw [warnings_bind_of_ok _ hnames]
  unfold draft
  rw [hsplit, bind_of_error _ hcolumns, bind_of_error _ rfl]
  exact warnings_writeColumns hfront h _

/-! ## How the statements of several tables fail -/

/-- How the statements of several tables fail, and what was left out up to there. -/
inductive Fails (generator : Generator) (tables : List Table) : Error → List Warning → Prop
  /-- A name of a table is refused, and nothing of that table is written. -/
  | name {before after : List Table} {table : Table} {e : Error}
      (split : tables = before ++ table :: after)
      (earlier : ∀ t ∈ before, generator.problem? t = none)
      (refused : (identifiers table).findSome? generator.nameProblem? = some e) :
      Fails generator tables e (before.flatMap generator.leftOutOf)
  /-- A column of a table cannot be defined, and nothing from there on is written. -/
  | column {before after : List Table} {table : Table} {front back : List Column} {column : Column}
      {e : Error} (split : tables = before ++ table :: after)
      (earlier : ∀ t ∈ before, generator.problem? t = none)
      (names : (identifiers table).findSome? generator.nameProblem? = none)
      (columns : table.columnList = front ++ column :: back)
      (defined : ∀ c ∈ front, generator.dialect.columnProblem? table.name c = none)
      (refused : generator.dialect.columnProblem? table.name column = some e) :
      Fails generator tables e (before.flatMap generator.leftOutOf ++
        generator.leftOut table.name (front.flatMap Column.optionalParts))
  /-- All tables are written, and something was left out where nothing may be. -/
  | strict (strict : generator.options.strict) (written : ∀ t ∈ tables, generator.problem? t = none)
      (leftOut : tables.flatMap generator.leftOutOf ≠ []) :
      Fails generator tables (.skippedFeatures (tables.flatMap generator.leftOutOf))
        (tables.flatMap generator.leftOutOf)

variable {tables : List Table} {e : Error}

/-- What is done at the end reports nothing. -/
theorem warnings_generateAllLogged :
    (generator.generateAllLogged tables).warnings = (generator.renderAll tables).warnings := by
  unfold generateAllLogged
  cases h : (generator.renderAll tables).result with
  | error e => exact warnings_bind_of_error _ h
  | ok generated => exact (warnings_bind_of_ok _ h).trans (List.append_nil _)

theorem findSome?_problem? {before after : List Table} {table : Table}
    (hbefore : ∀ t ∈ before, generator.problem? t = none) :
    (before ++ table :: after).findSome? generator.problem? =
      (generator.problem? table).or (after.findSome? generator.problem?) := by
  rw [List.findSome?_append, List.findSome?_eq_none_iff.2 hbefore, Option.none_or,
    List.findSome?_cons]
  cases generator.problem? table <;> rfl

/-- Tables without a problem are rendered, and what is left out of them is reported. -/
theorem exists_generateAll (h : ∀ t ∈ tables, generator.problem? t = none) :
    ∃ generated, generated.warnings = tables.flatMap generator.leftOutOf ∧
      (generator.renderAll tables).warnings = tables.flatMap generator.leftOutOf ∧
      generator.generateAll tables = generator.finish generated := by
  have hwarnings := warnings_renderAll_append h []
  rw [List.append_nil] at hwarnings
  have hnone : failure? (generator.renderAll tables).result = none := by
    rw [result_renderAll, failure?_map, failure?_renderEach, List.findSome?_eq_none_iff]
    exact h
  obtain ⟨generated, hgenerated⟩ := failure?_eq_none_iff.1 hnone
  have hreported : (generator.renderAll tables).warnings = tables.flatMap generator.leftOutOf :=
    hwarnings.trans (List.append_nil _)
  refine ⟨generated, ?_, hreported, ?_⟩
  · rw [← hreported]
    exact generator.notes_renderAll tables generated hgenerated
  · rw [generateAll, generateAllLogged, result_bind, hgenerated]
    rfl

/-- **An error comes about in one of three ways.** -/
theorem exists_fails (h : generator.generateAll tables = .error e) :
    ∃ warnings, Fails generator tables e warnings := by
  cases hproblem : tables.findSome? generator.problem? with
  | none =>
    have hwritten := List.findSome?_eq_none_iff.1 hproblem
    obtain ⟨generated, hnoted, -, hfinish⟩ := exists_generateAll hwritten
    rw [hfinish, finish_eq] at h
    split at h
    · next hstrict =>
      rw [hnoted] at h hstrict
      rw [← Except.error.inj h]
      exact ⟨_, .strict hstrict.1 hwritten hstrict.2⟩
    · cases h
  | some problem =>
    obtain rfl := Except.error.inj ((generateAll_of_problem hproblem).symm.trans h)
    obtain ⟨before, table, after, hsplit, htable, hbefore⟩ :=
      List.findSome?_eq_some_iff.1 hproblem
    cases hnames : (identifiers table).findSome? generator.nameProblem? with
    | some refused =>
      rw [problem?, hnames] at htable
      obtain rfl := Option.some.inj htable
      exact ⟨_, .name hsplit hbefore hnames⟩
    | none =>
      rw [problem?, hnames, Option.none_or] at htable
      obtain ⟨front, column, back, hcolumns, hcolumn, hfront⟩ :=
        List.findSome?_eq_some_iff.1 htable
      exact ⟨_, .column hsplit hbefore hnames hcolumns hfront hcolumn⟩

/-- **Each way to an error leaves its own reports.** -/
theorem warnings_of_fails {warnings : List Warning} (h : Fails generator tables e warnings) :
    generator.generateAll tables = .error e ∧
      (generator.generateAllLogged tables).warnings = warnings := by
  rw [warnings_generateAllLogged]
  cases h with
  | @name before after table _ hsplit hbefore hnames =>
    have hproblem : generator.problem? table = some e := by
      rw [problem?, hnames, Option.some_or]
    subst hsplit
    refine ⟨generateAll_of_problem ?_, ?_⟩
    · rw [findSome?_problem? hbefore, hproblem, Option.some_or]
    · rw [warnings_renderAll hbefore hproblem, warnings_render_of_name hnames, List.append_nil]
  | @column before after table front back column _ hsplit hbefore hnames hcolumns hfront hcolumn =>
    have hproblem : generator.problem? table = some e := by
      rw [problem?, hnames, Option.none_or, hcolumns, List.findSome?_append,
        List.findSome?_eq_none_iff.2 hfront, Option.none_or, List.findSome?_cons, hcolumn]
    subst hsplit
    refine ⟨generateAll_of_problem ?_, ?_⟩
    · rw [findSome?_problem? hbefore, hproblem, Option.some_or]
    · rw [warnings_renderAll hbefore hproblem,
        warnings_render_of_column hnames hcolumns hfront hcolumn]
  | strict hstrict hwritten hsome =>
    obtain ⟨generated, hnoted, hreported, hfinish⟩ := exists_generateAll hwritten
    refine ⟨?_, hreported⟩
    rw [hfinish, finish_eq, hnoted, if_pos ⟨hstrict, hsome⟩]

/-- No name is refused for what was left out. -/
theorem nameProblem?_ne_skippedFeatures (name : String) (listed : List Warning) :
    generator.nameProblem? name ≠ some (.skippedFeatures listed) := by
  rw [nameProblem?, Ne, failure?_eq_some_iff]
  unfold NameCheck.check
  dsimp only
  repeat' split
  all_goals nofun

/-- No column is refused for what was left out. -/
theorem columnProblem?_ne_skippedFeatures (dialect : Dialect) (table : String) (column : Column)
    (listed : List Warning) :
    dialect.columnProblem? table column ≠ some (.skippedFeatures listed) := by
  unfold Dialect.columnProblem?
  split
  · nofun
  · split <;> nofun

/-- **An error that lists what was left out lists all that was reported.** -/
theorem listed_of_fails {listed warnings : List Warning}
    (h : Fails generator tables (.skippedFeatures listed) warnings) : warnings = listed := by
  cases h with
  | name _ _ hnames =>
    obtain ⟨name, -, hname⟩ := List.exists_of_findSome?_eq_some hnames
    exact absurd hname (nameProblem?_ne_skippedFeatures name listed)
  | column _ _ _ _ _ hcolumn =>
    exact absurd hcolumn (columnProblem?_ne_skippedFeatures _ _ _ listed)
  | strict => rfl

end Generator

end PolySql
