import PolySql.Ddl.Generate

/-!
# What a command line asks for

* `Command` — the commands by name.
* `Topic` — what there is help for.
* `Action`, `Invocation` — a command with its arguments, and the options of all commands.
* `Stop` — a command line that asks for no command: a mistake, or a wish for help or the version.
-/

namespace PolySql.CommandLine

inductive Command where
  | dialects | ddl | paginate | types
  deriving DecidableEq, Repr

def Command.all : List Command := [.dialects, .ddl, .paginate, .types]

def Command.name : Command → String
  | .dialects => "dialects"
  | .ddl => "ddl"
  | .paginate => "paginate"
  | .types => "types"

/-- The command of a name; the letter case counts. -/
def Command.find? (name : String) : Option Command := all.find? fun command => command.name = name

inductive Topic where
  | program
  | command (command : Command)
  /-- Help itself. -/
  | help
  deriving DecidableEq, Repr

/-- The topic of a name. -/
def Topic.find? (name : String) : Option Topic :=
  if name = "help" then some .help else (Command.find? name).map .command

inductive Action where
  /-- Lists all dialects. -/
  | dialects
  /-- Lists the column types of the dialect. -/
  | types
  /-- Writes the statements for the tables of a schema file. -/
  | ddl (path : String) (options : Options)
  /-- Writes a query for one page. -/
  | paginate (page size : UInt64) (sql : String)
  deriving DecidableEq, Repr

structure Invocation where
  dialect : Option Dialect
  verbose : Bool
  action : Action
  deriving DecidableEq, Repr

inductive Stop where
  | misuse
  /-- A wish for help. -/
  | help (topic : Topic)
  | version
  deriving DecidableEq, Repr

end PolySql.CommandLine
