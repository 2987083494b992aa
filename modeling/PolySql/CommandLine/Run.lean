import PolySql.CommandLine.Arguments
import PolySql.CommandLine.Help
import PolySql.CommandLine.Listing
import PolySql.CommandLine.Report
import PolySql.Page
import PolySql.Schema

/-!
# Running a command line

* `Failure` — why a command has no output.
* `Run` — the log of a command and its output, or why there is none.
* `Invocation.run` — what a command does, given the files that it can read.
* `Outcome`, `execute` — exit code, output and messages of a command line.
-/

namespace PolySql.CommandLine

inductive Failure where
  | noDialect
  /-- The schema file cannot be read. -/
  | unreadable (path : String)
  /-- The schema file holds no tables. -/
  | malformed (path : String)
  | refused (error : Error)
  deriving DecidableEq, Repr

/-- The report of a failure. Where a file is to blame the report has no end of line, for the cause
stands after it. -/
def Failure.report : Failure → String
  | .noDialect => "Error: no dialect given, pass --dialect or set OXIDE_DIALECT\n"
  | .unreadable path => "Error: reading " ++ path
  | .malformed path => "Error: parsing " ++ path
  | .refused error => "Error: " ++ error.message ++ "\n"

structure Run where
  log : List LogLine
  output : Except Failure String

namespace Run

/-- A command that has nothing to log. -/
def silent (output : Except Failure String) : Run := ⟨[], output⟩

/-- The statements for tables, with an empty line between them when they are laid out. -/
def ddl (dialect : Dialect) (options : Options) (tables : List Table) : Run :=
  let generator : Generator := { dialect, options }
  let generated := generator.generateAllLogged tables
  let log := generated.events.map LogLine.ofEvent
  match generated.result with
  | .error error => ⟨log, .error (.refused error)⟩
  | .ok generated =>
    let separator := if options.format then "\n\n" else "\n"
    ⟨log ++ [LogLine.summary generated.statements.length tables.length generated.warnings.length],
      .ok (Text.joinWith separator generated.statements ++ "\n")⟩

/-- The statements for the tables of a schema file, whose text is `text?` if it can be read. -/
def ddlOfFile (dialect : Dialect) (options : Options) (path : String) (text? : Option String) :
    Run :=
  match text? with
  | none => silent (.error (.unreadable path))
  | some text =>
    match Schema.load? text with
    | none => silent (.error (.malformed path))
    | some tables =>
      let run := ddl dialect options tables
      { run with log := LogLine.schemaLoaded path tables.length :: run.log }

def paginate (dialect : Dialect) (page size : UInt64) (sql : String) : Run :=
  match dialect.paginate page size sql with
  | .error error => silent (.error (.refused error))
  | .ok query => ⟨[LogLine.pageRendered dialect page size], .ok (query ++ "\n")⟩

end Run

/-- What a command does. `fileText` gives the text of a file that can be read. -/
def Invocation.run (fileText : String → Option String) (invocation : Invocation) : Run :=
  match invocation.action, invocation.dialect with
  | .dialects, _ => Run.silent (.ok (dialectListing ++ "\n"))
  | _, none => Run.silent (.error .noDialect)
  | .types, some dialect => Run.silent (.ok (typeListing dialect ++ "\n"))
  | .ddl path options, some dialect => Run.ddlOfFile dialect options path (fileText path)
  | .paginate page size sql, some dialect => Run.paginate dialect page size sql

structure Outcome where
  code : UInt32
  stdout : String
  stderr : String
  deriving DecidableEq, Repr

/-- What is seen of a run: its log and then its report, or its output. -/
def Run.outcome (verbose : Bool) (run : Run) : Outcome :=
  let log := LogLine.writeAll verbose run.log
  match run.output with
  | .ok output => ⟨0, output, log⟩
  | .error failure => ⟨1, "", log ++ failure.report⟩

/-- The outcome of a command line that asks for no command. -/
def Stop.outcome (environment : Option String) : Stop → Outcome
  | .misuse => ⟨2, "", Text.plain programUsage ++ "\n"⟩
  | .help topic => ⟨0, helpText environment topic, ""⟩
  | .version => ⟨0, versionText, ""⟩

/-- The outcome of a command line. -/
def execute (fileText : String → Option String) (environment : Option String)
    (args : List String) : Outcome :=
  match Invocation.ofArgs environment args with
  | .error stop => stop.outcome environment
  | .ok invocation => (invocation.run fileText).outcome invocation.verbose

end PolySql.CommandLine
