import SqlAnalysis.Config

/-!
# The manual

What the program can be asked for, and what it says about itself when it is asked for help.  There
is a page about the program, one about each of its commands, and one about the command that shows
the pages.  A page has a sentence, a line on the usage, and lists of entries in two columns.

## Main definitions

* `CommandLine.Switch`, `CommandLine.CommandForm` — options and commands.
* `CommandLine.mainSwitches`, `CommandLine.commandForms` — those of the program.
* `CommandLine.page` — the page about the program or a command.
* `CommandLine.Page.text` — the text of a page.

## Main results

* `CommandLine.length_front` — what is said about the entries of a list starts in one column.
-/

namespace SqlAnalysis.CommandLine

/-! ### Options and commands -/

/-- An option. -/
structure Switch where
  /-- Its letter behind a single hyphen, if it has one. -/
  letter : Option Char
  /-- Its name behind two hyphens. -/
  name : String
  /-- A value follows. -/
  takesValue : Bool
  /-- What it is for. -/
  about : String
  /-- The variable of the environment that counts when the option is left out. -/
  envName : Option String
  deriving DecidableEq, Repr

/-- The option that asks for help. -/
def helpSwitch : Switch :=
  ⟨some 'h', "help", false, "Print help", none⟩

/-- The options of the program. -/
def mainSwitches : List Switch :=
  [⟨some 'c', "config", true, "TOML configuration file", some "SQLSENSE_CONFIG"⟩,
   ⟨some 's', "schema", true, "JSON schema file (overrides the configured one)", none⟩,
   ⟨some 'd', "database", true, "Database name shown in unknown-table diagnostics", none⟩,
   helpSwitch,
   ⟨some 'V', "version", false, "Print version", none⟩]

/-- A command. -/
structure CommandForm where
  /-- Its name. -/
  name : String
  /-- What it does. -/
  about : String
  /-- What may stand behind its name. -/
  usage : String
  /-- What is said about the query behind it. -/
  aboutQuery : String
  /-- Its options. -/
  switches : List Switch
  deriving DecidableEq, Repr

/-- The commands of the program. -/
def commandForms : List CommandForm :=
  [⟨"check", "Analyze a query and print its diagnostics", "[OPTIONS] [QUERY]",
      "Query text; read from stdin when omitted",
      [⟨none, "json", false, "Print diagnostics as JSON", none⟩, helpSwitch]⟩,
   ⟨"hover", "Describe the word at a byte offset", "--offset <OFFSET> [QUERY]", "",
      [⟨some 'o', "offset", true, "Byte offset into the query", none⟩, helpSwitch]⟩,
   ⟨"complete", "List completion entries for a query", "[QUERY]", "", [helpSwitch]⟩]

/-- The commands with their options. -/
def commandSwitches : List (String × List Switch) :=
  commandForms.map fun c => (c.name, c.switches)

/-! ### Pages -/

/-- An entry of a list: what it is about, and what is said about it. -/
structure Entry where
  /-- What it is about. -/
  label : String
  /-- What is said about it. -/
  about : String
  deriving DecidableEq, Repr

/-- The entry of an option.  The value that the environment has for it is shown too. -/
def Switch.entry (env : Config.Environment) (s : Switch) : Entry :=
  let letter := match s.letter with
    | some c => String.ofList ['-', c, ',', ' ']
    | none => "    "
  let value := if s.takesValue then " <" ++ s.name.toUpper ++ ">" else ""
  let ofEnv := match s.envName with
    | some v => " [env: " ++ v ++ "=" ++ (env v).getD "" ++ "]"
    | none => ""
  ⟨letter ++ "--" ++ s.name ++ value, s.about ++ ofEnv⟩

/-- A page of the manual. -/
structure Page where
  /-- What the page is about. -/
  about : String
  /-- How it is used. -/
  usage : String
  /-- Lists of entries, with their titles. -/
  lists : List (String × List Entry)
  /-- Lines at the end. -/
  examples : List String
  deriving DecidableEq, Repr

/-- The length of the longest label. -/
def labelWidth (entries : List Entry) : Nat :=
  (entries.map (·.label.length)).max?.getD 0

/-- What stands in front of what is said about an entry, where labels have a width. -/
def Entry.front (width : Nat) (e : Entry) : String :=
  ("  " ++ e.label).pushn ' ' (width - e.label.length) ++ "  "

/-- The lines of a list of entries. -/
def entryLines (entries : List Entry) : List String :=
  entries.map fun e => e.front (labelWidth entries) ++ e.about

/-- What is said about the entries of a list starts in one column. -/
theorem length_front {entries : List Entry} {e : Entry} (he : e ∈ entries) :
    (e.front (labelWidth entries)).length = labelWidth entries + 4 := by
  have hlabel : e.label.length ∈ entries.map (·.label.length) := List.mem_map_of_mem he
  have hle : e.label.length ≤ labelWidth entries := List.le_max?_getD_of_mem hlabel
  have hgap : ("  " : String).length = 2 := rfl
  rw [Entry.front, String.length_append, String.length_pushn, String.length_append, hgap]
  omega

example : entryLines [⟨"    --json", "Print diagnostics as JSON"⟩, ⟨"-h, --help", "Print help"⟩,
    ⟨"-V", ""⟩] =
      ["      --json  Print diagnostics as JSON", "  -h, --help  Print help", "  -V          "] := by
  decide +kernel

/-- The lines of a page. -/
def Page.lines (p : Page) : List String :=
  [p.about, "", "Usage: sqlsense " ++ p.usage]
    ++ p.lists.flatMap (fun (title, entries) => "" :: (title ++ ":") :: entryLines entries)
    ++ p.examples

/-- The text of a page. -/
def Page.text (p : Page) : String :=
  String.join (p.lines.map (· ++ "\n"))

/-- What is said about the command that shows the pages. -/
def aboutHelp : String :=
  "Print this message or the help of the given subcommand(s)"

/-- The page about the program. -/
def mainPage (env : Config.Environment) : Page where
  about := "Diagnostics, hover and completion for MySQL queries"
  usage := "[OPTIONS] <COMMAND>"
  lists :=
    [("Commands", commandForms.map (fun c => ⟨c.name, c.about⟩) ++ [⟨"help", aboutHelp⟩]),
     ("Options", mainSwitches.map (·.entry env))]
  examples :=
    ["", "EXAMPLES:",
     "    sqlsense check \"SELECT * FRM users\"",
     "    sqlsense --schema schema.json check --json \"SELECT id FROM users\"",
     "    sqlsense --schema schema.json hover --offset 14 \"SELECT * FROM users\""]

/-- The page about a command. -/
def CommandForm.page (env : Config.Environment) (c : CommandForm) : Page where
  about := c.about
  usage := c.name ++ " " ++ c.usage
  lists :=
    [("Arguments", [⟨"[QUERY]", c.aboutQuery⟩]), ("Options", c.switches.map (·.entry env))]
  examples := []

/-- The page about the command that shows the pages. -/
def helpPage : Page where
  about := aboutHelp
  usage := "help [COMMAND]..."
  lists := [("Arguments", [⟨"[COMMAND]...", "Print help for the subcommand(s)"⟩])]
  examples := []

/-- The page about a command, or about the program if no command is named. -/
def page (env : Config.Environment) : Option String → Page
  | none => mainPage env
  | some name => ((commandForms.find? (·.name = name)).map (·.page env)).getD helpPage

end SqlAnalysis.CommandLine
