import PolySql.Ddl.Log
import PolySql.Text.Join
import PolySql.Text.LogText

/-!
# Log lines

* `Severity`, `LogLine` — a line for the user beside the output proper.
* `LogLine.write` — the line with its severity in front.
* `LogLine.ofEvent` — the line for what the generation of statements reports.
-/

namespace PolySql.CommandLine

inductive Severity where
  | warn | info | debug
  deriving DecidableEq, Repr

structure LogLine where
  severity : Severity
  text : String
  deriving DecidableEq, Repr

namespace LogLine

/-- The name of a severity, in five characters. -/
def label : Severity → String
  | .warn => " WARN"
  | .info => " INFO"
  | .debug => "DEBUG"

def write (line : LogLine) : String := label line.severity ++ " " ++ line.text ++ "\n"

/-- Whether a line is shown; those of severity `debug` only when more is asked for. -/
def isShown (verbose : Bool) (line : LogLine) : Bool := verbose || line.severity != .debug

/-- The lines that are shown, one after the other. -/
def writeAll (verbose : Bool) (lines : List LogLine) : String :=
  Text.joinWith "" ((lines.filter (isShown verbose)).map write)

/-- The line for a warning: its text, then its place. -/
def ofWarning (warning : Warning) : LogLine :=
  let column :=
    match warning.skipped.column? with
    | some column => " column=" ++ Text.field column
    | none => ""
  ⟨.warn, Text.message warning.message ++ " dialect=" ++ warning.dialect.name ++ " table=" ++
    Text.field warning.table ++ column⟩

def ofEvent : Event → LogLine
  | .skipped warning => ofWarning warning
  | .tableDone dialect table statements warnings =>
    ⟨.debug, "generated create table DDL dialect=" ++ dialect.name ++ " table=" ++
      Text.field table ++ " statements=" ++ toString statements ++ " warnings=" ++
      toString warnings⟩

def schemaLoaded (path : String) (tables : Nat) : LogLine :=
  ⟨.debug, "loaded schema path=" ++ path ++ " tables=" ++ toString tables⟩

def pageRendered (dialect : Dialect) (page size : UInt64) : LogLine :=
  ⟨.debug, "rendered page dialect=" ++ dialect.name ++ " page_number=" ++
    toString page.toNat ++ " page_size=" ++ toString size.toNat⟩

def summary (statements tables warnings : Nat) : LogLine :=
  ⟨.info, toString statements ++ " statement(s) for " ++ toString tables ++ " table(s), " ++
    toString warnings ++ " warning(s)"⟩

end LogLine

end PolySql.CommandLine
