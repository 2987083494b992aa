import PolySql.CommandLine.Invocation

/-!
# Reading a command line

The arguments are read from left to right: options of all commands, the name of a command, then its
own options and arguments among the former. An option may be given once before the name of the
command and once after it, and then the later one counts.

A value in an argument of its own is judged when the next option comes, or at the end. So a wrong
value right before the name of a command does not keep that command from giving its help.

* `Switch`, `Parameter` — options without and with a value; `Place.option?` says which of them are
  known where.
* `Given` — the options and arguments read in one place.
* `State.step` — one argument.
* `Invocation.ofArgs` — the whole command line.
-/

namespace PolySql.CommandLine

/-- Options without a value. -/
inductive Switch where
  | verbose | format | strict | help | version
  deriving DecidableEq, Repr

/-- Options with a value. -/
inductive Parameter where
  | dialect | page | size
  deriving DecidableEq, Repr

inductive OptionKind where
  | switch (switch : Switch)
  | parameter (parameter : Parameter)
  deriving DecidableEq, Repr

/-- Before the name of a command, or after it. -/
inductive Place where
  | outside
  | within (command : Command)
  deriving DecidableEq, Repr

/-- The option of a long name. -/
def Place.option? (place : Place) (name : String) : Option OptionKind :=
  match name, place with
  | "dialect", _ => some (.parameter .dialect)
  | "verbose", _ => some (.switch .verbose)
  | "help", _ => some (.switch .help)
  | "version", .outside => some (.switch .version)
  | "format", .within .ddl => some (.switch .format)
  | "strict", .within .ddl => some (.switch .strict)
  | "page", .within .paginate => some (.parameter .page)
  | "size", .within .paginate => some (.parameter .size)
  | _, _ => none

/-- The long name for a letter. -/
def longName? : Char → Option String
  | 'd' => some "dialect"
  | 'v' => some "verbose"
  | 'h' => some "help"
  | 'V' => some "version"
  | 'p' => some "page"
  | 's' => some "size"
  | _ => none

/-- What was read in one place. -/
structure Given where
  verbose : Bool := false
  dialect : Option Dialect := none
  page : Option UInt64 := none
  size : Option UInt64 := none
  format : Bool := false
  strict : Bool := false
  /-- The argument that is no option. -/
  argument : Option String := none
  deriving DecidableEq, Repr

/-- A number of 64 bits, perhaps with a plus sign. -/
def rowCount? (text : String) : Option UInt64 :=
  let digits :=
    match text.toList with
    | '+' :: r => r
    | r => r
  if digits ≠ [] ∧ digits.all Char.isDigit then
    let n := digits.foldl (fun n c => 10 * n + (c.toNat - 48)) 0
    if n < UInt64.size then some (UInt64.ofNat n) else none
  else none

/-- A value that is there, or else a misuse. -/
def orMisuse {α : Type} : Option α → Except Stop α
  | some a => .ok a
  | none => .error .misuse

/-- Sets what was not set before. -/
def once {α : Type} (old : Option α) (new : Option α) : Except Stop (Option α) :=
  match old with
  | some _ => .error .misuse
  | none => (orMisuse new).map some

/-- Turns on what was not on before. -/
def turnOn (old : Bool) : Except Stop Bool := if old then .error .misuse else .ok true

def Given.turn (given : Given) (place : Place) : Switch → Except Stop Given
  | .verbose => (turnOn given.verbose).map fun verbose => { given with verbose }
  | .format => (turnOn given.format).map fun format => { given with format }
  | .strict => (turnOn given.strict).map fun strict => { given with strict }
  | .version => .error .version
  | .help =>
    .error <| .help <|
      match place with
      | .outside => .program
      | .within command => .command command

def Given.assign (given : Given) (value : String) : Parameter → Except Stop Given
  | .dialect => (once given.dialect (Dialect.find? value)).map fun dialect => { given with dialect }
  | .page => (once given.page (rowCount? value)).map fun page => { given with page }
  | .size => (once given.size (rowCount? value)).map fun size => { given with size }

/-- How far a command line has been read. -/
structure State where
  place : Place := .outside
  /-- What was given before the name of the command, or `none` if a value there is wrong. -/
  outer : Option Given := some {}
  given : Given := {}
  /-- The option whose value comes next. -/
  pending : Option Parameter := none
  /-- An option with a value that is not judged yet. -/
  unjudged : Option (Parameter × String) := none
  /-- Whether all that follows is arguments. -/
  optionsEnded : Bool := false
  /-- What help was asked for by name; after `program` the topic may follow. -/
  topic : Option Topic := none
  deriving DecidableEq, Repr

/-- The longest part without a character, and what follows that character, if it is there. -/
def splitAtFirst (c : Char) (s : List Char) : List Char × Option (List Char) :=
  match s.dropWhile (· ≠ c) with
  | [] => (s, none)
  | _ :: r => (s.takeWhile (· ≠ c), some r)

namespace State

/-- Judges the value that is not judged yet. -/
def settle (state : State) : Except Stop State :=
  match state.unjudged with
  | none => .ok state
  | some (parameter, value) =>
    (state.given.assign value parameter).map fun given => { state with given, unjudged := none }

/-- An option by its name, perhaps with a value in the same argument. -/
def long (state : State) (s : List Char) : Except Stop State := do
  let (name, value) := splitAtFirst '=' s
  match ← orMisuse (state.place.option? (String.ofList name)), value with
  | .switch switch, none => return { state with given := ← state.given.turn state.place switch }
  | .switch _, some _ => .error .misuse
  | .parameter parameter, some value =>
    return { state with given := ← state.given.assign (String.ofList value) parameter }
  | .parameter parameter, none => return { state with pending := some parameter }

/-- Options by their letters. What follows the letter of an option with a value is the value. -/
def letters (state : State) : List Char → Except Stop State
  | [] => .ok state
  | c :: r => do
    match ← orMisuse ((longName? c).bind state.place.option?), r with
    | .switch switch, _ =>
      letters { state with given := ← state.given.turn state.place switch } r
    | .parameter parameter, [] => return { state with pending := some parameter }
    | .parameter parameter, '=' :: value =>
      return { state with given := ← state.given.assign (String.ofList value) parameter }
    | .parameter parameter, value =>
      return { state with given := ← state.given.assign (String.ofList value) parameter }

/-- The name of a command, or an argument of one. -/
def positional (state : State) (arg : String) : Except Stop State :=
  match state.place with
  | .outside =>
    if state.optionsEnded then .error .misuse
    else if arg = "help" then .ok { state with topic := some .program }
    else
      match Command.find? arg with
      | some command =>
        let outer := state.settle.toOption.map State.given
        .ok { state with place := .within command, outer, given := {}, unjudged := none }
      | none => .error .misuse
  | .within command =>
    let accepted : Bool :=
      match command with
      | .dialects | .types => false
      | .ddl => arg ≠ ""
      | .paginate => true
    if accepted ∧ state.given.argument = none then
      .ok { state with given := { state.given with argument := some arg } }
    else .error .misuse

/-- The topic of a wish for help by name. -/
def helpTopic (state : State) (topic : Topic) (arg : String) : Except Stop State :=
  match topic, Topic.find? arg with
  | .program, some topic => .ok { state with topic := some topic }
  | _, _ => .error .misuse

/-- Whether an argument has the form of an option. A hyphen alone has not. -/
def looksLikeOption (arg : String) : Bool :=
  match arg.toList with
  | '-' :: _ :: _ => true
  | _ => false

def step (state : State) (arg : String) : Except Stop State :=
  match state.topic, state.pending with
  | some topic, _ => state.helpTopic topic arg
  | none, some parameter =>
    if looksLikeOption arg then .error .misuse
    else .ok { state with pending := none, unjudged := some (parameter, arg) }
  | none, none =>
    if state.optionsEnded then state.positional arg
    else
      match arg.toList with
      | ['-', '-'] => .ok { state with optionsEnded := true }
      | '-' :: '-' :: s => do (← state.settle).long s
      | '-' :: c :: s => do (← state.settle).letters (c :: s)
      | _ => state.positional arg

end State

/-- The dialect for a place, when the environment names one for places that do not. -/
def dialectIn (environment : Option String) (given : Given) : Except Stop (Option Dialect) :=
  match given.dialect, environment with
  | some dialect, _ => .ok (some dialect)
  | none, some name => (orMisuse (Dialect.find? name)).map some
  | none, none => .ok none

def actionOf (given : Given) : Command → Except Stop Action
  | .dialects => .ok .dialects
  | .types => .ok .types
  | .ddl => (orMisuse given.argument).map fun path => .ddl path ⟨given.format, given.strict⟩
  | .paginate =>
    (orMisuse given.argument).map fun sql => .paginate (given.page.getD 1) (given.size.getD 10) sql

/-- What some arguments ask for. `environment` is the dialect that the environment names. -/
def Invocation.ofArgs (environment : Option String) (args : List String) :
    Except Stop Invocation := do
  let state ← args.foldlM State.step {}
  if let some topic := state.topic then .error (.help topic)
  if state.pending.isSome then .error .misuse
  let { place, outer, given, .. } ← state.settle
  match place with
  | .outside => .error .misuse
  | .within command =>
    let outer ← orMisuse outer
    let outerDialect ← dialectIn environment outer
    let dialect ← dialectIn environment given
    return {
      dialect := given.dialect.or (outer.dialect.or (dialect.or outerDialect))
      verbose := outer.verbose || given.verbose
      action := ← actionOf given command }

end PolySql.CommandLine
