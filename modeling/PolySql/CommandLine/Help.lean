import PolySql.CommandLine.Invocation
import PolySql.Text.Join
import PolySql.Text.Plain
import PolySql.Text.Replace

/-!
# Help

The texts that explain the command line. They tell which dialect the environment names, as it
stands there. Headings and what has to be typed are in bold; a text that is not shown on a terminal
loses that, together with all that looks like an order to one.
-/

namespace PolySql.CommandLine

open Text

/-- The name by which the program is called. -/
def programName : String := "oxide-ddl"

def versionText : String := programName ++ " 0.1.0\n"

/-- What a command does. -/
def Command.summary : Command → String
  | .dialects => "List every dialect with its family and paging support"
  | .ddl => "Print CREATE TABLE statements for a JSON schema file"
  | .paginate => "Rewrite a select statement to return one page"
  | .types => "Print how the dialect spells every canonical type"

/-- How something is called, after its name. -/
def usageLine (name : List String) (arguments : String) : String :=
  heading "Usage:" ++ " " ++ bold (joinWith " " (programName :: name)) ++ " " ++ arguments

def programUsage : String := usageLine [] "[OPTIONS] <COMMAND>"

def Command.usage (command : Command) : String :=
  usageLine [command.name] <|
    match command with
    | .dialects | .types => "[OPTIONS]"
    | .ddl => "[OPTIONS] <SCHEMA>"
    | .paginate => "[OPTIONS] <SQL>"

def Command.argumentHelp : Command → List String
  | .ddl =>
    [heading "Arguments:", "  <SCHEMA>  Schema file holding one table or an array of tables", ""]
  | .paginate => [heading "Arguments:", "  <SQL>  The select statement", ""]
  | .dialects | .types => []

/-- The column where the explanations of options begin. -/
def explanationColumn : Nat := 27

/-- An option by its letter, its name and what its value is called. The lines of its explanation
stand below each other. -/
def optionLine (letter : Option Char) (name value explanation : String) : String :=
  let name := "--" ++ name
  let letter :=
    match letter with
    | some c => bold (String.ofList ['-', c]) ++ ", "
    | none => "    "
  "  " ++ letter ++ bold name ++ padEnd (explanationColumn - 6 - name.length) value ++
    replaceAll "\n" ("\n" ++ padEnd explanationColumn "") explanation

def dialectHelp (environment : Option String) : String :=
  optionLine 'd' "dialect" " <DIALECT>" <|
    "Target dialect, e.g. `MySQL55Dialect` or `postgresql95` [env: OXIDE_DIALECT=" ++
      environment.getD "" ++ "]"

def verboseHelp : String := optionLine 'v' "verbose" "" "Enable verbose output"

def helpHelp : String := optionLine 'h' "help" "" "Print help"

def versionHelp : String := optionLine 'V' "version" "" "Print version"

def Command.optionHelp (environment : Option String) : Command → List String
  | .ddl =>
    [dialectHelp environment,
      optionLine none "format" "" "Lay statements out one definition per line",
      optionLine none "strict" "" "Fail instead of skipping unsupported optional features",
      verboseHelp, helpHelp]
  | .paginate =>
    [dialectHelp environment,
      optionLine 'p' "page" " <PAGE>" "1-based page number [default: 1]",
      optionLine 's' "size" " <SIZE>" "Rows per page [default: 10]",
      verboseHelp, helpHelp]
  | .dialects | .types => [dialectHelp environment, verboseHelp, helpHelp]

def helpSummary : String := "Print this message or the help of the given subcommand(s)"

/-- A command by its name. -/
def commandEntry (name summary : String) : String :=
  "  " ++ bold name ++ padEnd (10 - name.length) "" ++ summary

/-- The lines of help for one command. -/
def commandHelp (environment : Option String) (command : Command) : List String :=
  [command.summary, "", command.usage, ""] ++ command.argumentHelp ++
    [heading "Options:"] ++ command.optionHelp environment

/-- The lines of help for the whole program. -/
def programHelp (environment : Option String) : List String :=
  ["Command-line front end for oxide-dialects", "", programUsage, "", heading "Commands:"] ++
    Command.all.map (fun command => commandEntry command.name command.summary) ++
    [commandEntry "help" helpSummary, "", heading "Options:", dialectHelp environment, verboseHelp,
      helpHelp, versionHelp]

/-- The lines of help for help. -/
def helpOnHelp : List String :=
  [helpSummary, "", usageLine ["help"] "[COMMAND]...", "", heading "Arguments:",
    "  [COMMAND]...  Print help for the subcommand(s)"]

/-- The help for a topic when the environment names a dialect or none. -/
def helpText (environment : Option String) (topic : Topic) : String :=
  let lines :=
    match topic with
    | .program => programHelp environment
    | .command command => commandHelp environment command
    | .help => helpOnHelp
  plain (joinWith "\n" lines ++ "\n")

end PolySql.CommandLine
