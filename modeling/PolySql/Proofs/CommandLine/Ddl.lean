import PolySql.CommandLine.Run
import PolySql.Proofs.CommandLine.Log
import PolySql.Proofs.Ddl.Reports

/-!
# The command that writes the statements for tables

The statements are printed all together or not at all, while parts that are left out are logged as
they are come upon. Here the log and the output are given as a whole.

* `Outcome.generated`, `Outcome.failed` — what is seen of a success and of a failure.
* `filter_map_ofEvent` — of what the generation of statements reports, the log shows the warnings.
* `Run.lineFeeds_generated` — how many lines the log of a success has.
* `Writes` — what the command comes to, case by case.

Principal result: `execute_ddl` — it comes to that for every schema file.
-/

namespace PolySql.CommandLine

namespace Outcome

/-- The statements of some tables; in the log an entry for each warning, then a line with the
counts. -/
def generated (options : Options) (tables : List Table) (generated : Generated) : Outcome where
  code := 0
  stdout := (if options.format then "\n\n" else "\n").intercalate generated.statements ++ "\n"
  stderr := String.join (generated.warnings.map Warning.entry) ++
    LogLine.summaryEntry generated.statements.length tables.length generated.warnings.length

/-- No output, and in the log an entry for each warning before the report of a failure. -/
def failed (warnings : List Warning) (report : String) : Outcome where
  code := 1
  stdout := ""
  stderr := String.join (warnings.map Warning.entry) ++ "Error: " ++ report

end Outcome

/-- What the command that writes the statements for a schema file comes to. The text of the file is
`text?` if it can be read. -/
structure Writes (dialect : Dialect) (options : Options) (path : String) (text? : Option String)
    (outcome : Outcome) : Prop where
  unreadable : text? = none → outcome = .failed [] ("reading " ++ path)
  malformed : ∀ text, text? = some text → Schema.load? text = none →
    outcome = .failed [] ("parsing " ++ path)
  generated : ∀ text tables generated, text? = some text → Schema.load? text = some tables →
    Generator.generateAll { dialect, options } tables = .ok generated →
    outcome = .generated options tables generated
  /-- The log has as many lines as there are warnings, and one more, exactly if no warning has a line
  feed in it. -/
  lines : ∀ text tables generated, text? = some text → Schema.load? text = some tables →
    Generator.generateAll { dialect, options } tables = .ok generated →
    (Text.lineFeeds outcome.stderr = generated.warnings.length + 1 ↔
      ∀ warning ∈ generated.warnings, warning.lineFeeds = 0)
  /-- What fails, fails in a way that is known. Where the error lists what was left out, just that
  was logged. -/
  refused : ∀ text tables e, text? = some text → Schema.load? text = some tables →
    Generator.generateAll { dialect, options } tables = .error e →
    ∃ warnings, Generator.Fails { dialect, options } tables e warnings ∧
      ∀ listed, e = .skippedFeatures listed → warnings = listed
  /-- The way of a failure says what was logged before it. -/
  failed : ∀ text tables e warnings, text? = some text → Schema.load? text = some tables →
    Generator.Fails { dialect, options } tables e warnings →
    outcome = .failed warnings (e.message ++ "\n")

/-! ## The log -/

namespace LogLine

/-- Of what the generation of statements reports, the warnings are shown. -/
theorem filter_map_ofEvent (events : List Event) :
    (events.map ofEvent).filter (isShown false) =
      (events.filterMap Event.warning?).map ofWarning := by
  induction events with
  | nil => rfl
  | cons event events ih =>
    cases event with
    | skipped warning =>
      have hshown : isShown false (ofEvent (.skipped warning)) = true := rfl
      rw [List.map_cons, List.filter_cons_of_pos hshown, ih]
      rfl
    | tableDone dialect table statements warnings =>
      have hhidden : ¬isShown false (ofEvent (.tableDone dialect table statements warnings)) :=
        Bool.false_ne_true
      rw [List.map_cons, List.filter_cons_of_neg hhidden, ih]
      rfl

/-- What is printed for the reports of the generation are the entries of the warnings. -/
theorem writeAll_ofEvent (events : List Event) :
    writeAll false (events.map ofEvent) =
      String.join ((events.filterMap Event.warning?).map Warning.entry) := by
  have hentries : write ∘ ofWarning = Warning.entry := funext write_ofWarning
  rw [writeAll, filter_map_ofEvent, Text.joinWith_empty, List.map_map, hentries]

theorem writeAll_append (verbose : Bool) (lines more : List LogLine) :
    writeAll verbose (lines ++ more) = writeAll verbose lines ++ writeAll verbose more := by
  simp only [writeAll, Text.joinWith_empty, List.filter_append, List.map_append,
    String.join_append]

end LogLine

namespace Run

variable {dialect : Dialect} {options : Options} {path text : String} {tables : List Table}

/-- That a file was read is not shown. -/
theorem outcome_ddlOfFile (hload : Schema.load? text = some tables) :
    (ddlOfFile dialect options path (some text)).outcome false =
      (ddl dialect options tables).outcome false := by
  unfold ddlOfFile outcome
  simp only [hload]
  rfl

theorem outcome_ddl_of_ok {generated : Generated}
    (h : Generator.generateAll { dialect, options } tables = .ok generated) :
    (ddl dialect options tables).outcome false = .generated options tables generated := by
  have hlog := Generator.warnings_of_ok h
  rw [Generator.generateAll] at h
  unfold ddl outcome Outcome.generated
  simp only [h, LogLine.writeAll_append, LogLine.writeAll_ofEvent, Text.joinWith_eq_intercalate]
  rw [Logged.warnings] at hlog
  rw [hlog, ← LogLine.write_summary]
  rfl

theorem outcome_ddl_of_error {e : Error}
    (h : Generator.generateAll { dialect, options } tables = .error e) :
    (ddl dialect options tables).outcome false =
      .failed (Generator.generateAllLogged { dialect, options } tables).warnings
        (e.message ++ "\n") := by
  have hreport : (Failure.refused e).report = "Error: " ++ e.message ++ "\n" := rfl
  rw [Generator.generateAll] at h
  unfold ddl outcome Outcome.failed
  simp only [h, LogLine.writeAll_ofEvent, hreport, String.append_assoc]
  rfl

/-- The lines that are printed for a success. -/
theorem lineFeeds_generated (options : Options) (tables : List Table) (generated : Generated) :
    Text.lineFeeds (Outcome.generated options tables generated).stderr =
      generated.warnings.length + (generated.warnings.map Warning.lineFeeds).sum + 1 := by
  rw [Outcome.generated, Text.lineFeeds_append, Warning.lineFeeds_entries,
    (LogLine.isLine_summaryEntry _ _ _).lineFeeds rfl]

/-- A failure before anything is logged. -/
theorem outcome_silent_error {failure : Failure} {words path : String}
    (h : failure.report = "Error: " ++ words ++ path) :
    (silent (.error failure)).outcome false = .failed [] (words ++ path) := by
  unfold silent outcome Outcome.failed
  simp only [h, String.append_assoc]
  rfl

theorem writes_ddlOfFile (dialect : Dialect) (options : Options) (path : String)
    (text? : Option String) :
    Writes dialect options path text? ((ddlOfFile dialect options path text?).outcome false) where
  unreadable := by
    rintro rfl
    exact outcome_silent_error rfl
  malformed := by
    rintro text rfl hload
    simp only [ddlOfFile, hload]
    exact outcome_silent_error rfl
  generated := by
    rintro text tables generated rfl hload h
    rw [outcome_ddlOfFile hload, outcome_ddl_of_ok h]
  lines := by
    rintro text tables generated rfl hload h
    have hsum : (generated.warnings.map Warning.lineFeeds).sum = 0 ↔
        ∀ warning ∈ generated.warnings, warning.lineFeeds = 0 := by
      simp [List.sum_eq_zero_iff_forall_eq_nat]
    rw [outcome_ddlOfFile hload, outcome_ddl_of_ok h, lineFeeds_generated, ← hsum]
    omega
  refused := by
    rintro text tables e - - h
    obtain ⟨warnings, hfails⟩ := Generator.exists_fails h
    refine ⟨warnings, hfails, ?_⟩
    rintro listed rfl
    exact Generator.listed_of_fails hfails
  failed := by
    rintro text tables e warnings rfl hload hfails
    obtain ⟨herror, hlog⟩ := Generator.warnings_of_fails hfails
    rw [outcome_ddlOfFile hload, outcome_ddl_of_error herror, hlog]

end Run

/-! ## The command -/

/-- **Statements are printed all together or not at all, and the log agrees.** Where they are
printed, the log has an entry for each warning that comes with them, and then a line with the
counts; where they are not, it has entries for all that was left out before the failure. An entry is
one line exactly if there is no line feed in the names and the text of the warning. -/
theorem execute_ddl {environment : Option String} {args : List String} {dialect : Dialect}
    {options : Options} {path : String}
    (h : Invocation.ofArgs environment args = .ok ⟨some dialect, false, .ddl path options⟩)
    (fileText : String → Option String) :
    Writes dialect options path (fileText path) (execute fileText environment args) ∧
      (∀ warning : Warning, IsLine " WARN " warning.entry ↔ warning.lineFeeds = 0) ∧
      ∀ statements tables warnings,
        IsLine " INFO " (LogLine.summaryEntry statements tables warnings) := by
  refine ⟨?_, Warning.isLine_entry_iff, LogLine.isLine_summaryEntry⟩
  unfold execute
  rw [h]
  exact Run.writes_ddlOfFile dialect options path (fileText path)

theorem eq_ok_of_toOption {α : Type} {result : Except Error α} {a : α}
    (h : result.toOption = some a) : result = .ok a := by
  cases result with
  | error e => cases h
  | ok b => exact congrArg Except.ok (Option.some.inj h)

/-- A schema file in which a column and its table have checks. -/
def checkedSchema : String :=
  "[[\"t\",[[\"a\",\"INTEGER\",[],false,null,false,false,false,null,null,\"a > 0\"]],\"a > b\"]]"

def checkedTables : List Table :=
  [⟨"t", ⟨[("A", { name := "a", type := .integer, check := some "a > 0" })]⟩, some "a > b", none⟩]

/-- A schema file whose second table has a reserved name. The first one has a check. -/
def refusedSchema : String := "[[\"t\",[],\"a > b\"],[\"table\"]]"

theorem execute_ddl_mySql5 :
    Invocation.ofArgs none ["ddl", "-d", "mysql5", "t.json"] =
        .ok ⟨some .mySql5, false, .ddl "t.json" {}⟩ ∧
      execute (fun _ => some checkedSchema) none ["ddl", "-d", "mysql5", "t.json"] =
        ⟨0, "create table t (a integer);\n",
          " WARN Ignored unsupported check setting for dialect \"MySQL5Dialect\" on column " ++
            "\"a\" in table \"t\" with value: a > 0 dialect=MySQL5Dialect table=\"t\" " ++
            "column=\"a\"\n" ++
          " WARN Ignored unsupported table check setting for dialect \"MySQL5Dialect\" on table " ++
            "\"t\" with value: a > b dialect=MySQL5Dialect table=\"t\"\n" ++
          " INFO 1 statement(s) for 1 table(s), 2 warning(s)\n"⟩ ∧
      execute (fun _ => some refusedSchema) none ["ddl", "-d", "mysql5", "t.json"] =
        ⟨1, "",
          " WARN Ignored unsupported table check setting for dialect \"MySQL5Dialect\" on table " ++
            "\"t\" with value: a > b dialect=MySQL5Dialect table=\"t\"\n" ++
          "Error: 'table' is a reserved word of MySQL5Dialect\n"⟩ := by
  have hargs : Invocation.ofArgs none ["ddl", "-d", "mysql5", "t.json"] =
      .ok ⟨some .mySql5, false, .ddl "t.json" {}⟩ := by rfl
  refine ⟨hargs, ?_, ?_⟩
  · have hwrites := (execute_ddl hargs fun _ => some checkedSchema).1
    have hload : Schema.load? checkedSchema = some checkedTables := by decide +kernel
    have hgenerated : Generator.generateAll { dialect := .mySql5 } checkedTables =
        .ok ⟨["create table t (a integer);"], [⟨.mySql5, "t", .columnCheck "a", "a > 0"⟩,
          ⟨.mySql5, "t", .tableCheck, "a > b"⟩]⟩ :=
      eq_ok_of_toOption (by decide +kernel)
    rw [hwrites.generated _ _ _ rfl hload hgenerated]
    decide +kernel
  · have hwrites := (execute_ddl hargs fun _ => some refusedSchema).1
    have hload : Schema.load? refusedSchema =
        some ([⟨"t", ⟨[]⟩, some "a > b", none⟩] ++ [⟨"table", ⟨[]⟩, none, none⟩]) := by
      decide +kernel
    have hfails : Generator.Fails { dialect := .mySql5 }
        ([⟨"t", ⟨[]⟩, some "a > b", none⟩] ++ [⟨"table", ⟨[]⟩, none, none⟩])
        (.reservedWord "table" .mySql5) [⟨.mySql5, "t", .tableCheck, "a > b"⟩] :=
      .name rfl (by decide +kernel) (by decide +kernel)
    rw [hwrites.failed _ _ _ _ rfl hload hfails]
    decide +kernel

/-- A schema file whose table has a check with a line feed. -/
def brokenSchema : String := "[[\"t\",[],\"a > b\\n WARN c\"]]"

/-- A line feed in the text of a warning is printed as it stands, and what follows it may look like
another warning. -/
theorem execute_ddl_broken :
    Schema.load? brokenSchema = some [⟨"t", ⟨[]⟩, some "a > b\n WARN c", none⟩] ∧
      Generator.generateAll { dialect := .mySql5 }
          [⟨"t", ⟨[]⟩, some "a > b\n WARN c", none⟩] =
        .ok ⟨["create table t ();"], [⟨.mySql5, "t", .tableCheck, "a > b\n WARN c"⟩]⟩ ∧
      ((execute (fun _ => some brokenSchema) none
        ["ddl", "-d", "mysql5", "t.json"]).stderr.toList.splitOn '\n').countP
          (fun line => " WARN ".toList.isPrefixOf line) = 2 :=
  ⟨by decide +kernel, eq_ok_of_toOption (by decide +kernel), by decide +kernel⟩

end PolySql.CommandLine
