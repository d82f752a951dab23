import SqlAnalysis.CommandLine.Manual
import SqlAnalysis.Json.Writer
import SqlAnalysis.Schema.Store
import SqlAnalysis.Session
import SqlAnalysis.Sql.Frontend

/-!
# The command line

The program checks a query, tells about a word in it, or lists completions.  Options of the
program come before the command, options of a command behind it.  An argument that starts
with a hyphen is an option unless it stands behind `--`; it is never the value of the option
in front of it.

A run is a function from the outside world, as far as the program looks at it, to what it
prints and its exit code.

## Main definitions

* `CommandLine.Command`, `CommandLine.Invocation` — what is asked for.
* `CommandLine.read` — what the arguments ask for, if they make sense.
* `CommandLine.World`, `CommandLine.Outcome` — what a run depends on, and what it gives.
* `CommandLine.runOf`, `CommandLine.run` — a run of the program, with queries read in any way and
  in the way of this library.
-/

namespace SqlAnalysis.CommandLine

open Text

/-! ### Options -/

/-- What the arguments say, one thing after the other. -/
inductive Event
  /-- An option with its value. -/
  | switch (name : String) (value : String)
  /-- Another argument, with the arguments behind it. -/
  | plain (text : String) (rest : List String)
  /-- Whatever follows is no option. -/
  | escape
  /-- The arguments do not make sense from here on. -/
  | wrong
  deriving DecidableEq, Repr

/-- An argument looks like an option. -/
def looksLikeSwitch (arg : String) : Bool :=
  match arg.toList with
  | '-' :: _ :: _ => true
  | _ => false

/-- An option as it stands in an argument. -/
inductive Found
  /-- The option is complete. -/
  | complete (event : Event)
  /-- The value of the option is the next argument. -/
  | incomplete (name : String)
  deriving DecidableEq, Repr

/-- The option behind two hyphens. -/
def longSwitch (switches : List Switch) (text : List Char) : Found :=
  let (name, value) := match cutFirst? '=' text with
    | some (name, value) => (name, some (String.ofList value))
    | none => (text, none)
  match switches.find? fun s => s.name.toList = name, value with
  | some s, some v => .complete (if s.takesValue then .switch s.name v else .wrong)
  | some s, none => if s.takesValue then .incomplete s.name else .complete (.switch s.name "")
  | none, _ => .complete .wrong

/-- The option behind a single hyphen, with its value if that follows right away.  Options
without value are the last that counts, so nothing is read behind their letter. -/
def shortSwitch (switches : List Switch) (letter : Char) (text : List Char) : Found :=
  match switches.find? fun s => s.letter = some letter with
  | none => .complete .wrong
  | some s =>
    if s.takesValue then
      match text with
      | [] => .incomplete s.name
      | '=' :: value => .complete (.switch s.name (String.ofList value))
      | value => .complete (.switch s.name (String.ofList value))
    else .complete (.switch s.name "")

/-- The option that an argument which looks like one is. -/
def switchOf (switches : List Switch) (arg : String) : Found :=
  match arg.toList with
  | '-' :: '-' :: text => longSwitch switches text
  | '-' :: letter :: text => shortSwitch switches letter text
  | _ => .complete .wrong

/-- What the arguments say.  `pending` is an option whose value comes next. -/
def events (switches : List Switch) : (pending : Option String) → List String → List Event
  | none, [] => []
  | some _, [] => [.wrong]
  | some name, arg :: args =>
    if looksLikeSwitch arg then [.wrong] else .switch name arg :: events switches none args
  | none, arg :: args =>
    if arg = "--" then .escape :: args.map (.plain · [])
    else if looksLikeSwitch arg then
      match switchOf switches arg with
      | .complete event => event :: events switches none args
      | .incomplete name => events switches (some name) args
    else .plain arg args :: events switches none args

/-! ### Commands -/

/-- What the program is to do.  A query that is not given is read from the input. -/
inductive Command
  /-- Check a query, and print its diagnostics as JSON or in lines. -/
  | check (query : Option String) (json : Bool)
  /-- Tell about the word at a byte offset. -/
  | hover (offset : Nat) (query : Option String)
  /-- List completions. -/
  | complete (query : Option String)
  deriving DecidableEq, Repr

/-- The query of a command, if it is given. -/
def Command.query : Command → Option String
  | check q _ => q
  | hover _ q => q
  | complete q => q

/-- A command with the options of the program. -/
structure Invocation where
  /-- The configuration file. -/
  config : Option String
  /-- The schema file. -/
  schema : Option String
  /-- The name of the database for messages. -/
  database : Option String
  /-- The command. -/
  command : Command
  deriving DecidableEq, Repr

/-- What the arguments ask for. -/
inductive Reading
  /-- A run of the program. -/
  | invocation (i : Invocation)
  /-- The version of the program. -/
  | version
  /-- The page of the manual about a command, or about the program. -/
  | help (command : Option String)
  deriving DecidableEq, Repr

/-- The arguments of a command. -/
structure CommandArguments where
  /-- The query. -/
  query : Option String
  /-- The offset. -/
  offset : Option Nat
  /-- The output is JSON. -/
  json : Bool

/-- The arguments of a command; `none` inside stands for a request for help. -/
def commandArguments : CommandArguments → List Event → Option (Option CommandArguments)
  | a, [] => some (some a)
  | a, .escape :: es => commandArguments a es
  | a, .plain q _ :: es =>
    if a.query.isSome then none else commandArguments { a with query := some q } es
  | _, .switch "help" _ :: _ => some none
  | a, .switch "json" _ :: es =>
    if a.json then none else commandArguments { a with json := true } es
  | a, .switch "offset" v :: es =>
    match decimal? v.toList with
    | some n => if a.offset.isSome then none else commandArguments { a with offset := some n } es
    | none => none
  | _, _ :: _ => none

/-- The command with a name and arguments; `none` inside stands for a request for help. -/
def command (name : String) (args : List String) : Option (Option Command) := do
  let switches ← commandSwitches.lookup name
  match ← commandArguments ⟨none, none, false⟩ (events switches none args) with
  | none => return none
  | some a =>
    match name with
    | "check" => return some (.check a.query a.json)
    | "hover" => return some (.hover (← a.offset) a.query)
    | _ => return some (.complete a.query)

/-- A request for help, perhaps about one of the commands, has these arguments. -/
def isHelpRequest : List String → Bool
  | [] => true
  | [arg] => arg = "help" || (commandSwitches.lookup arg).isSome
  | _ => false

/-- What the command `name` with arguments asks for, behind the options `i` of the program. -/
def readCommand (i : Command → Invocation) (name : String) (args : List String) :
    Option Reading :=
  if name = "help" then
    if isHelpRequest args then some (.help args.head?) else none
  else
    (command name args).map fun
      | some c => .invocation (i c)
      | none => .help (some name)

/-- What the events ask for, behind options of the program.  Paths must not be empty. -/
def readEvents (config schema database : Option String) : List Event → Option Reading
  | .switch "config" v :: es =>
    if config.isSome || v.isEmpty then none else readEvents (some v) schema database es
  | .switch "schema" v :: es =>
    if schema.isSome || v.isEmpty then none else readEvents config (some v) database es
  | .switch "database" v :: es =>
    if database.isSome then none else readEvents config schema (some v) es
  | .switch "version" _ :: _ => some .version
  | .switch "help" _ :: _ => some (.help none)
  | .plain name rest :: _ => readCommand (⟨config, schema, database, ·⟩) name rest
  | _ => none

/-- What the arguments ask for, if they make sense. -/
def read (args : List String) : Option Reading :=
  readEvents none none none (events mainSwitches none args)

/-! ### Runs -/

/-- What a run depends on besides its arguments. -/
structure World where
  /-- The environment. -/
  env : Config.Environment
  /-- The texts of files, as far as they exist. -/
  file : String → Option String
  /-- The standard input. -/
  input : String

/-- What a run gives. -/
structure Outcome where
  /-- The exit code. -/
  exit : Nat
  /-- The standard output. -/
  output : String
  deriving DecidableEq, Repr

/-- The arguments, or the configuration, make no sense. -/
def failed : Outcome :=
  ⟨2, ""⟩

/-- A character that ends a line. -/
def isLineBreak (c : Char) : Bool :=
  c = '\n' || c = '\r'

/-- The query of a command: the given one, or the input without the line breaks at its end. -/
def queryText (world : World) (c : Command) : String :=
  c.query.getD (String.ofList (trimEndMatching isLineBreak world.input.toList))

/-- The name of a file without its directories. -/
def fileName (path : List Char) : List Char :=
  match cutLast? '/' (trimEndMatching (· = '/') path) with
  | some (_, name) => name
  | none => trimEndMatching (· = '/') path

/-- A path names a configuration file: its extension is `toml`. -/
def isConfigPath (path : String) : Bool :=
  match cutLast? '.' (fileName path.toList) with
  | some (stem, extension) => !stem.isEmpty && extension = ['t', 'o', 'm', 'l']
  | none => false

/-- The configuration of a run. -/
def configOf (world : World) (path : Option String) : Option Config :=
  match path.or (world.env "SQLSENSE_CONFIG") with
  | none => Config.load world.env none
  | some p => if isConfigPath p then Config.load world.env (world.file p) else none

/-- The schema of a run; none if there is no file, or the file is no schema. -/
def schemaOf (world : World) (path : Option String) : Option Schema :=
  path.bind fun p => (Schema.loadText (world.file p)).toOption.map Schema.ofTables

/-- The output for diagnostics. -/
def report (json : Bool) (ds : List Diagnostic) : String :=
  if json then (Json.array (ds.map Diagnostic.toJson)).pretty ++ "\n"
  else if ds.isEmpty then "No problems found.\n"
  else String.join (ds.map fun d => d.line ++ "\n")

/-- The request behind a command. -/
def request (schema : Option Schema) (database : Option String) (query : String) :
    Command → Request
  | .check _ _ => .diagnose query schema database
  | .hover offset _ => .hover query offset schema
  | .complete _ => .complete query schema

/-- What is printed for the answer to a command. -/
def present (c : Command) : Response → Outcome
  | .diagnostics ds =>
    let json := match c with
      | .check _ json => json
      | _ => false
    ⟨if ds.any (·.severity == .error) then 1 else 0, report json ds⟩
  | .info i => ⟨0, (Json.ofOption QuickInfo.toJson i).pretty ++ "\n"⟩
  | .entries cs => ⟨0, (Json.array (cs.map Completion.toJson)).pretty ++ "\n"⟩
  | _ => failed

/-- A run of the program on arguments that make sense, where queries are read by `reader`. -/
def execute (reader : String → Sql.Reading) (world : World) (i : Invocation) : Outcome :=
  match configOf world i.config with
  | none => failed
  | some config =>
    let schema := schemaOf world (i.schema.or config.schemaPath)
    let frontend : CountedFrontend := fun _ => Sql.frontendOf reader config.maxQueryLength
    let r := request schema (i.database.or config.databaseName) (queryText world i.command) i.command
    present i.command (Session.initial.step frontend r).2

/-- A run of the program, where queries are read by `reader`. -/
def runOf (reader : String → Sql.Reading) (world : World) (args : List String) : Outcome :=
  match read args with
  | none => failed
  | some .version => ⟨0, "sqlsense 0.1.0\n"⟩
  | some (.help command) => ⟨0, (page world.env command).text⟩
  | some (.invocation i) => execute reader world i

/-- A run of the program. -/
def run (world : World) (args : List String) : Outcome :=
  runOf Sql.readQuery world args

end SqlAnalysis.CommandLine
