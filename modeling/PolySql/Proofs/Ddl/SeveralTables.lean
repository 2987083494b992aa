import PolySql.Proofs.Ddl.CreateTable

/-!
# The statements of several tables

Tables are rendered one after the other, and what the options ask for is done once at the end. Here
the outcome is said table by table.

* `failure?` — the error of a result; that of several steps is that of the first step that fails
  (`failure?_mapM`).
* `Generator.problem?` — what keeps a table from being rendered: the first name that is refused, or
  else the first column that cannot be defined.
* `Generated.concat` — the statements and the warnings of several tables, one after the other.
* `result_renderAll` — several tables are rendered as each of them is.
* `Generator.Composes` — what the outcome for several tables is, and what each option changes.

Principal result: `composes` — it is so for every generator.
-/

namespace PolySql

/-! ## Steps that may fail -/

/-- The error of a result, if it is one. -/
def failure? {α ε : Type} : Except ε α → Option ε
  | .ok _ => none
  | .error e => some e

section Failure

variable {α β ε : Type}

theorem failure?_eq_some_iff {result : Except ε α} {e : ε} :
    failure? result = some e ↔ result = .error e := by
  cases result <;> simp [failure?]

theorem failure?_eq_none_iff {result : Except ε α} :
    failure? result = none ↔ ∃ a, result = .ok a := by
  cases result <;> simp [failure?]

theorem failure?_map (f : α → β) (result : Except ε α) :
    failure? (result.map f) = failure? result := by
  cases result <;> rfl

/-- After a step that succeeds, what fails is the next one. -/
theorem failure?_bind_map (first : Except ε Unit) (second : Except ε α) :
    failure? (first.bind fun _ => second) = (failure? first).or (failure? second) := by
  cases first <;> rfl

/-- The error of several steps is that of the first step that fails. -/
theorem failure?_mapM (f : α → Except ε β) (list : List α) :
    failure? (list.mapM f) = list.findSome? fun a => failure? (f a) := by
  induction list with
  | nil => rfl
  | cons a list ih =>
    rw [List.mapM_cons, List.findSome?_cons, ← ih]
    cases f a with
    | error e => rfl
    | ok b => cases list.mapM f <;> rfl

theorem failure?_forM (f : α → Except ε Unit) (list : List α) :
    failure? (list.forM f) = list.findSome? fun a => failure? (f a) := by
  induction list with
  | nil => rfl
  | cons a list ih =>
    have hcons : (a :: list).forM f = (f a).bind fun _ => list.forM f := rfl
    rw [hcons, failure?_bind_map, ih, List.findSome?_cons]
    cases failure? (f a) <;> rfl

end Failure

/-! ## What keeps a table from being rendered -/

namespace Dialect

/-- Whether the type of a column is written. Some identity clauses stand without it. -/
def writesType (dialect : Dialect) (column : Column) : Bool :=
  !column.identity || dialect.features.identity.any (·.writesType)

/-- Why a column cannot be defined: the database is to generate its values and does not, or its type
is to be written and has no spelling. -/
def columnProblem? (dialect : Dialect) (table : String) (column : Column) : Option Error :=
  if column.identity ∧ dialect.features.identity = none then
    some (.identityUnsupported dialect table column.name)
  else if dialect.writesType column ∧ dialect.spell? column.type column.lengths = none then
    some (.typeUnsupported dialect column.type)
  else none

end Dialect

namespace Generator

/-- Why a name is refused, if it is. -/
def nameProblem? (generator : Generator) (name : String) : Option Error :=
  failure? (generator.nameCheck.check generator.dialect name)

/-- What keeps a table from being rendered: the first name that is refused, or else the first column
that cannot be defined. -/
def problem? (generator : Generator) (table : Table) : Option Error :=
  ((identifiers table).findSome? generator.nameProblem?).or
    (table.columnList.findSome? (generator.dialect.columnProblem? table.name))

end Generator

theorem Dialect.failure?_spell (dialect : Dialect) (type : ColumnType) (lengths : Lengths) :
    failure? (dialect.spell type lengths) =
      if dialect.spell? type lengths = none then some (.typeUnsupported dialect type)
      else none := by
  unfold spell
  cases dialect.spell? type lengths <;> rfl

/-- A column has no definition exactly if it has a problem. -/
theorem Dialect.failure?_columnText (dialect : Dialect) (table : String) (column : Column) :
    failure? (dialect.columnText table column) = dialect.columnProblem? table column := by
  unfold columnText
  rw [failure?_map]
  unfold columnDefinition columnProblem? writesType
  cases hidentity : column.identity with
  | false =>
    rw [if_neg Bool.false_ne_true, failure?_map, failure?_spell]
    simp
  | true =>
    rw [if_pos rfl]
    cases hclause : dialect.features.identity with
    | none => simp [failure?]
    | some clause =>
      by_cases hwrites : clause.writesType = true
      · simp [hwrites, failure?_map, failure?_spell]
      · simp [hwrites, failure?]

namespace Generator

/-- **A table is not rendered exactly if it has a problem**, and the problem is the error. -/
theorem failure?_render (generator : Generator) (table : Table) :
    failure? (generator.render table).result = generator.problem? table := by
  rw [result_render, failure?_bind_map, failure?_map, failure?_mapM]
  unfold checkNames problem?
  rw [failure?_forM]
  simp only [Dialect.failure?_columnText]
  rfl

end Generator

/-! ## Several tables -/

/-- The statements and the warnings of several tables, one after the other. -/
def Generated.concat (parts : List Generated) : Generated :=
  ⟨parts.flatMap (·.statements), parts.flatMap (·.warnings)⟩

theorem Generated.concat_append (parts others : List Generated) :
    concat (parts ++ others) = (concat parts).append (concat others) := by
  simp [concat, append]

namespace Generator

/-- **Several tables are rendered as each of them is.** -/
theorem result_renderAll (generator : Generator) (tables : List Table) :
    (generator.renderAll tables).result =
      (tables.mapM fun table => (generator.render table).result).map Generated.concat := by
  induction tables with
  | nil => rfl
  | cons table tables ih =>
    rw [renderAll, Logged.result_bind, List.mapM_cons]
    cases (generator.render table).result with
    | error e => rfl
    | ok first =>
      simp only [Except.bind, Logged.result_bind, ih]
      cases tables.mapM fun table => (generator.render table).result with
      | error e => rfl
      | ok rest => rfl

theorem generateAll_eq_bind (generator : Generator) (tables : List Table) :
    generator.generateAll tables =
      ((tables.mapM fun table => (generator.render table).result).map Generated.concat).bind
        generator.finish := by
  rw [generateAll, generateAllLogged, Logged.result_bind, result_renderAll]
  rfl

/-- The generator without options. -/
def plain (generator : Generator) : Generator := { generator with options := {} }

def setStrict (generator : Generator) (strict : Bool) : Generator :=
  { generator with options := { generator.options with strict } }

def setFormat (generator : Generator) (format : Bool) : Generator :=
  { generator with options := { generator.options with format } }

/-- The options play no part before the end. -/
theorem result_render_options (generator : Generator) (options : Options) (table : Table) :
    (render { generator with options } table).result = (generator.render table).result := by
  rw [result_render, result_render]
  rfl

/-- Without options a table is returned as it is rendered. -/
theorem generate_plain (generator : Generator) (table : Table) :
    generator.plain.generate table = (generator.render table).result := by
  rw [generate_eq_bind, plain, result_render_options]
  cases (generator.render table).result <;> rfl

/-- How the statements and the warnings of several tables come about. -/
structure Composes (generator : Generator) : Prop where
  /-- The problem of a table is its error. -/
  problem : ∀ table, failure? (generator.plain.generate table) = generator.problem? table
  /-- The first table that has a problem decides, whatever the others are and the options say. -/
  refused : ∀ tables e, tables.findSome? generator.problem? = some e →
    generator.generateAll tables = .error e
  /-- Otherwise each table has its own statements and warnings, and they follow one another. Where
  no warning may be, all warnings are the error. -/
  accepted : ∀ tables, tables.findSome? generator.problem? = none →
    ∃ parts, tables.mapM generator.plain.generate = .ok parts ∧
      generator.generateAll tables =
        if generator.options.strict ∧ ∃ part ∈ parts, part.warnings ≠ [] then
          .error (.skippedFeatures (parts.flatMap (·.warnings)))
        else .ok ⟨(parts.flatMap (·.statements)).map
            (if generator.options.format then layout else id),
          parts.flatMap (·.warnings)⟩
  single : ∀ table, generator.generateAll [table] = generator.generate table
  append : ∀ tables more first rest, generator.generateAll tables = .ok first →
    generator.generateAll more = .ok rest →
    generator.generateAll (tables ++ more) = .ok (first.append rest)
  /-- Strictness makes an error of warnings, and changes nothing else. -/
  strict : ∀ tables, (generator.setStrict true).generateAll tables =
    ((generator.setStrict false).generateAll tables).bind fun generated =>
      if generated.warnings = [] then .ok generated
      else .error (.skippedFeatures generated.warnings)
  /-- Formatting lays out each statement, and changes nothing else. -/
  format : ∀ tables, (generator.setFormat true).generateAll tables =
    ((generator.setFormat false).generateAll tables).map fun generated =>
      { generated with statements := generated.statements.map layout }

/-! ## What is done at the end -/

theorem finish_eq (generator : Generator) (generated : Generated) :
    generator.finish generated =
      if generator.options.strict ∧ generated.warnings ≠ [] then
        .error (.skippedFeatures generated.warnings)
      else .ok { generated with
        statements :=
          generated.statements.map (if generator.options.format then layout else id) } := by
  unfold finish
  cases generator.options.format <;> simp

theorem finish_append {generator : Generator} {a b first rest : Generated}
    (ha : generator.finish a = .ok first) (hb : generator.finish b = .ok rest) :
    generator.finish (a.append b) = .ok (first.append rest) := by
  rw [finish_eq] at ha hb ⊢
  split at ha
  · cases ha
  · split at hb
    · cases hb
    · rename_i hfirst hrest
      have hnone : ¬(generator.options.strict ∧ (a.append b).warnings ≠ []) := by
        rintro ⟨hstrict, hwarnings⟩
        have ha : a.warnings = [] := by simpa [hstrict] using hfirst
        have hb : b.warnings = [] := by simpa [hstrict] using hrest
        exact hwarnings (by simp [Generated.append, ha, hb])
      rw [if_neg hnone, ← Except.ok.inj ha, ← Except.ok.inj hb]
      simp [Generated.append]

theorem finish_setStrict (generator : Generator) (generated : Generated) :
    (generator.setStrict true).finish generated =
      ((generator.setStrict false).finish generated).bind fun generated =>
        if generated.warnings = [] then .ok generated
        else .error (.skippedFeatures generated.warnings) := by
  rw [finish_eq, finish_eq]
  unfold setStrict
  dsimp only
  generalize (if generator.options.format then layout else id) = write
  by_cases h : generated.warnings = []
  · simp [h, Except.bind]
  · simp [h, Except.bind]

theorem finish_setFormat (generator : Generator) (generated : Generated) :
    (generator.setFormat true).finish generated =
      ((generator.setFormat false).finish generated).map fun generated =>
        { generated with statements := generated.statements.map layout } := by
  rw [finish_eq, finish_eq]
  unfold setFormat
  dsimp only
  split
  · rfl
  · simp [Except.map]

/-! ## The outcome for several tables -/

/-- All tables are rendered exactly if none has a problem; otherwise the error is the problem of the
first that has one. -/
theorem failure?_renderEach (generator : Generator) (tables : List Table) :
    failure? (tables.mapM fun table => (generator.render table).result) =
      tables.findSome? generator.problem? := by
  rw [failure?_mapM]
  simp only [failure?_render]

theorem generateAll_of_problem {generator : Generator} {tables : List Table} {e : Error}
    (h : tables.findSome? generator.problem? = some e) :
    generator.generateAll tables = .error e := by
  rw [← failure?_renderEach, failure?_eq_some_iff] at h
  rw [generateAll_eq_bind, h]
  rfl

theorem generateAll_of_no_problem {generator : Generator} {tables : List Table}
    (h : tables.findSome? generator.problem? = none) :
    ∃ parts, tables.mapM generator.plain.generate = .ok parts ∧
      generator.generateAll tables = generator.finish (Generated.concat parts) := by
  rw [← failure?_renderEach, failure?_eq_none_iff] at h
  obtain ⟨parts, hparts⟩ := h
  refine ⟨parts, ?_, ?_⟩
  · have hgenerate : generator.plain.generate = fun table => (generator.render table).result :=
      funext generator.generate_plain
    rw [hgenerate]
    exact hparts
  · rw [generateAll_eq_bind, hparts]
    rfl

theorem generateAll_singleton (generator : Generator) (table : Table) :
    generator.generateAll [table] = generator.generate table := by
  rw [generateAll_eq_bind, generate_eq_bind, List.mapM_cons]
  cases (generator.render table).result with
  | error e => rfl
  | ok generated =>
    have hconcat : Generated.concat [generated] = generated := by simp [Generated.concat]
    exact congrArg generator.finish hconcat

theorem generateAll_append {generator : Generator} {tables more : List Table}
    {first rest : Generated} (hfirst : generator.generateAll tables = .ok first)
    (hrest : generator.generateAll more = .ok rest) :
    generator.generateAll (tables ++ more) = .ok (first.append rest) := by
  rw [generateAll_eq_bind] at hfirst hrest ⊢
  rw [List.mapM_append]
  cases hparts : tables.mapM fun table => (generator.render table).result with
  | error e =>
    rw [hparts] at hfirst
    cases hfirst
  | ok parts =>
    cases hothers : more.mapM fun table => (generator.render table).result with
    | error e =>
      rw [hothers] at hrest
      cases hrest
    | ok others =>
      rw [hparts] at hfirst
      rw [hothers] at hrest
      have hfinish := finish_append hfirst hrest
      rw [← Generated.concat_append] at hfinish
      exact hfinish

/-- An option that changes what is done at the end changes the outcome in the same way. -/
theorem generateAll_of_finish {generator : Generator} {options options' : Options}
    {change : Generated → Except Error Generated}
    (h : ∀ generated, finish { generator with options } generated =
      (finish { generator with options := options' } generated).bind change)
    (tables : List Table) :
    generateAll { generator with options } tables =
      (generateAll { generator with options := options' } tables).bind change := by
  rw [generateAll_eq_bind, generateAll_eq_bind]
  simp only [result_render_options]
  cases tables.mapM fun table => (generator.render table).result with
  | error e => rfl
  | ok parts => exact h (Generated.concat parts)

/-- **Several tables have the statements and the warnings of each of them, one after the other.** A
table with a problem stops all of them; the options are looked at once, at the end. -/
theorem composes (generator : Generator) : generator.Composes where
  problem table := by
    rw [generate_plain]
    exact generator.failure?_render table
  refused _ _ h := generateAll_of_problem h
  accepted tables h := by
    obtain ⟨parts, hparts, hall⟩ := generateAll_of_no_problem h
    refine ⟨parts, hparts, ?_⟩
    have hwarnings : (Generated.concat parts).warnings ≠ [] ↔
        ∃ part ∈ parts, part.warnings ≠ [] := by
      simp [Generated.concat]
    rw [hall, finish_eq]
    simp only [hwarnings]
    rfl
  single := generator.generateAll_singleton
  append _ _ _ _ hfirst hrest := generateAll_append hfirst hrest
  strict := generateAll_of_finish generator.finish_setStrict
  format := by
    have hmap : ∀ (result : Except Error Generated) (f : Generated → Generated),
        result.map f = result.bind fun generated => .ok (f generated) := by
      intro result f
      cases result <;> rfl
    intro tables
    rw [hmap]
    refine generateAll_of_finish (fun generated => ?_) tables
    rw [← hmap]
    exact generator.finish_setFormat generated

end Generator

end PolySql
