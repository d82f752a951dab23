import SqlAnalysis.Proofs.CommandLine.Arguments
import SqlAnalysis.Proofs.Schema.Store
import SqlAnalysis.Proofs.Session.Transparency
import SqlAnalysis.Proofs.Text.Split

/-!
# Runs with the same outcome

A run depends on what is asked, on the text of the query and on the schema, but not on the way by
which they came.  A query may stand among the arguments or be the input, where line breaks at its
end do not count.  A schema file that gives no schema is as good as none: the run does not fail, and
it does not go on with an empty schema either.  The exit code of a check tells whether the query
cannot work, in whichever form the diagnostics are printed.  All this holds however queries are read
(`reader`), since a run looks only at the parses that the reading gives.

## Main definitions

* `Problem.IsFatal` — the query cannot work.
* `Schema.Unusable` — the text of a schema file that gives no schema.
* `CommandLine.Command.About` — the query that a command is about.
* `CommandLine.outcome` — what a command prints about a query, under a configuration and a schema.
* `CommandLine.CannotWork` — the analysis finds a fatal problem.

## Main results

* `CommandLine.schemaOf_eq_snapshot` — the schema of a run is what a store shows that was asked to
  load the file.
* `CommandLine.Command.about_iff` — a command is about one query.
* `CommandLine.execute_eq` — what a run depends on.
* `CommandLine.exit_outcome_check_iff` — a check fails if the query cannot work.
* `CommandLine.run_eq_run` — **runs that differ only in the way of the query, in a schema file
  without schema or in the form of the output.**
-/

namespace SqlAnalysis

/-! ### Fatal problems -/

/-- The query cannot work: it is not understood, or it gives values to other columns than it
lists. -/
def Problem.IsFatal (p : Problem) : Prop :=
  p.isSyntax = true ∨ ∃ columns values span, p = .countMismatch columns values span

theorem Diagnostic.severityOf_eq_error_iff (p : Problem) :
    Diagnostic.severityOf p = .error ↔ p.IsFatal := by
  cases p <;> simp [Diagnostic.severityOf, Problem.IsFatal, Problem.isSyntax]

/-- The diagnostics of a query hold an error exactly if its problem is fatal. -/
theorem any_error_diagnose_iff (query : String) (schema : Option Schema)
    (database : Option String) (parse : Option Parse) :
    (diagnose query schema database parse).any (·.severity == .error) = true
      ↔ ∃ p, analyze query schema parse = some p ∧ p.IsFatal := by
  cases hp : analyze query schema parse with
  | none => simp [diagnose, hp]
  | some p =>
    have hseverity : (Diagnostic.ofProblem schema database query p).severity
        = Diagnostic.severityOf p := rfl
    simp [diagnose, hp, hseverity, Diagnostic.severityOf_eq_error_iff]

/-! ### Schema files without schema -/

/-- The text of a schema file that gives no schema; none stands for a file that does not exist. -/
inductive Schema.Unusable : Option String → Prop
  /-- There is no such file. -/
  | missing : Unusable none
  /-- The text is no JSON, or JSON that describes no tables. -/
  | malformed {text : String} (hread : (Json.parse? text).bind readTables? = none) :
    Unusable (some text)
  /-- One of the tables has no name. -/
  | nameless {text : String} {tables : List Table} {t : Table}
    (hread : (Json.parse? text).bind readTables? = some tables) (ht : t ∈ tables)
    (hname : t.name = "") : Unusable (some text)

/-- Nothing is loaded from a schema file that gives no schema. -/
theorem Schema.exists_error_of_unusable {file : Option String} (h : Unusable file) :
    ∃ e, loadText file = .error e := by
  cases hload : loadText file with
  | error e => exact ⟨e, rfl⟩
  | ok ts =>
    have hgives : (Provider.file file).Gives ts := Provider.load_eq_ok_iff.mp hload
    cases hgives with
    | @file text v _ hparse hread hnames =>
      have hts : (Json.parse? text).bind readTables? = some ts := by
        rw [hparse, Option.bind_some, hread]
      cases h with
      | malformed hnone =>
        rw [hts] at hnone
        cases hnone
      | nameless hsome ht hname =>
        rw [hts] at hsome
        cases hsome
        exact absurd hname (hnames _ ht)

namespace CommandLine

open Text

/-- The schema of a run is what a store shows that was asked to load the file. -/
theorem schemaOf_eq_snapshot (world : World) (path : String) :
    schemaOf world (some path)
      = ((Schema.Stores.initial.load 0 (.file (world.file path))).1.snapshot 0).map
          Schema.ofTables := by
  cases hload : Schema.loadText (world.file path) with
  | error e =>
    simp only [schemaOf, Schema.Stores.load, Schema.Provider.load, Option.bind_some, hload]
    rfl
  | ok tables =>
    simp only [schemaOf, Schema.Stores.load, Schema.Provider.load, Option.bind_some, hload]
    rfl

/-- A store that could not load the file is as it was, so it shows nothing. -/
theorem schemaOf_of_unusable {world : World} {path : String}
    (h : Schema.Unusable (world.file path)) : schemaOf world (some path) = none := by
  obtain ⟨e, hload⟩ := Schema.exists_error_of_unusable h
  rw [schemaOf_eq_snapshot]
  simp only [Schema.Stores.load, Schema.Provider.load, hload]
  rfl

/-! ### The query -/

/-- The query that a command is about: the one that is given, or else the input up to the line
breaks at its end. -/
inductive Command.About (world : World) (c : Command) : String → Prop
  /-- The query is given. -/
  | given {q : String} (hquery : c.query = some q) : About world c q
  /-- The query is the input. -/
  | input {q breaks : String} (hquery : c.query = none) (hinput : world.input = q ++ breaks)
    (hq : ∀ ch ∈ q.toList.getLast?, isLineBreak ch = false)
    (hbreaks : ∀ ch ∈ breaks.toList, isLineBreak ch = true) : About world c q

section

variable {world : World} {c : Command} {q : String}

theorem Command.about_queryText (world : World) (c : Command) :
    c.About world (queryText world c) := by
  cases hquery : c.query with
  | some q =>
    have htext : queryText world c = q := by rw [queryText, hquery, Option.getD_some]
    rw [htext]
    exact .given hquery
  | none =>
    obtain ⟨breaks, hinput, hbreaks⟩ :=
      exists_eq_trimEndMatching_append isLineBreak world.input.toList
    have htext : queryText world c
        = String.ofList (trimEndMatching isLineBreak world.input.toList) := by
      rw [queryText, hquery, Option.getD_none]
    have hsplit : world.input = queryText world c ++ String.ofList breaks := by
      rw [htext, ← String.ofList_append, ← hinput, String.ofList_toList]
    refine .input hquery hsplit (fun ch hch => ?_) (by rwa [String.toList_ofList])
    rw [htext, String.toList_ofList] at hch
    exact eq_false_of_mem_getLast?_trimEndMatching hch

/-- **A command is about one query**, which is the text that it is carried out on. -/
theorem Command.about_iff : c.About world q ↔ queryText world c = q := by
  constructor
  · intro h
    cases h with
    | given hquery => rw [queryText, hquery, Option.getD_some]
    | input hquery hinput hq hbreaks =>
      rw [queryText, hquery, Option.getD_none, hinput, String.toList_append,
        trimEndMatching_append hbreaks hq, String.ofList_toList]
  · rintro rfl
    exact c.about_queryText world

end

/-! ### Outcomes -/

section

variable (reader : String → Sql.Reading)

/-- What a command prints about a query, under a configuration and a schema, and its exit code. -/
def outcome (config : Config) (schema : Option Schema) (database : Option String)
    (query : String) (c : Command) : Outcome :=
  let r := request schema database query c
  present c
    (r.answer (if r.NeedsParse then (Sql.frontendOf reader config.maxQueryLength query).toOption
      else none))

/-- What a run depends on: the configuration, the schema, the name of the database, the query and
the kind of command. -/
theorem execute_eq (world : World) (i : Invocation) :
    execute reader world i = match configOf world i.config with
      | none => failed
      | some config =>
        outcome reader config (schemaOf world (i.schema.or config.schemaPath))
          (i.database.or config.databaseName) (queryText world i.command) i.command := by
  unfold execute
  cases configOf world i.config with
  | none => rfl
  | some config =>
    have hquery : ∀ schema database query (c : Command),
        (request schema database query c).query = query := by
      intro schema database query c
      cases c <;> rfl
    simp only [outcome, Session.step_initial, hquery]

/-- Where the query of a command came from does not matter for what is printed about it. -/
theorem outcome_withQuery (config : Config) (schema : Option Schema) (database : Option String)
    (query : String) (c : Command) (given : Option String) :
    outcome reader config schema database query (c.withQuery given)
      = outcome reader config schema database query c := by
  cases c <;> rfl

/-- The analysis of a query, under a configuration and a schema, finds that it cannot work. -/
def CannotWork (config : Config) (schema : Option Schema) (query : String) : Prop :=
  ∃ p, analyze query schema (Sql.frontendOf reader config.maxQueryLength query).toOption = some p ∧
    p.IsFatal

/-- A blank query is not parsed, and its parse would not be looked at. -/
theorem diagnose_of_needed (query : String) (schema : Option Schema) (database : Option String)
    (parse : Option Parse) :
    diagnose query schema database
        (if (Request.diagnose query schema database).NeedsParse then parse else none)
      = diagnose query schema database parse := by
  by_cases hneeds : (Request.diagnose query schema database).NeedsParse
  · rw [if_pos hneeds]
  · have hblank : isBlankQuery query = true := Bool.of_not_eq_false hneeds
    rw [if_neg hneeds, diagnose, diagnose, analyze, analyze, if_pos hblank, if_pos hblank]

/-- The exit code of a check tells whether there is an error among the diagnostics, in whichever
form they are printed. -/
theorem exit_outcome_check (config : Config) (schema : Option Schema) (database : Option String)
    (query : String) (given : Option String) (json : Bool) :
    (outcome reader config schema database query (.check given json)).exit
      = if (diagnose query schema database
            (Sql.frontendOf reader config.maxQueryLength query).toOption).any
              (·.severity == .error)
        then 1 else 0 := by
  rw [← diagnose_of_needed]
  rfl

/-- A check fails exactly if the query cannot work. -/
theorem exit_outcome_check_iff (config : Config) (schema : Option Schema)
    (database : Option String) (query : String) (given : Option String) (json : Bool) :
    ((outcome reader config schema database query (.check given json)).exit = 1
      ↔ CannotWork reader config schema query) ∧
    ((outcome reader config schema database query (.check given json)).exit = 0
      ↔ ¬CannotWork reader config schema query) := by
  rw [exit_outcome_check, CannotWork, ← any_error_diagnose_iff query schema database]
  split
  case isTrue herror => simp [herror]
  case isFalse hnone => simp [hnone]

/-! ### Runs -/

theorem runOf_of_read {world : World} {args : List String} {i : Invocation}
    (h : read args = some (.invocation i)) : runOf reader world args = execute reader world i := by
  rw [runOf, h]

/-- What is asked about a given query, and about the same query in the input. -/
theorem execute_withQuery {world : World} {i : Invocation} {q breaks : String}
    (hi : i.command.query = some q) (hq : ∀ c ∈ q.toList.getLast?, isLineBreak c = false)
    (hbreaks : ∀ c ∈ breaks.toList, isLineBreak c = true) :
    execute reader { world with input := q ++ breaks } (i.withQuery none)
      = execute reader world i := by
  have hgiven : queryText world i.command = q := Command.about_iff.mp (.given hi)
  have hinput : queryText { world with input := q ++ breaks } (i.command.withQuery none) = q :=
    Command.about_iff.mp (.input (Command.query_withQuery none i.command) rfl hq hbreaks)
  have hconfig : configOf { world with input := q ++ breaks } i.config = configOf world i.config :=
    rfl
  have hschema : ∀ path, schemaOf { world with input := q ++ breaks } path = schemaOf world path :=
    fun path => rfl
  -- Only the input is another one, so the configuration and the schema are the same.
  rw [execute_eq, execute_eq, hgiven]
  simp only [Invocation.withQuery, hinput, hconfig, hschema, outcome_withQuery]

/-- A schema file that gives no schema is as good as none, neither among the arguments nor in the
configuration. -/
theorem execute_of_unusable {world world' : World} {i : Invocation} {config : Config}
    {path : String} (hconfig : configOf world i.config = some config)
    (hpath : i.schema.or config.schemaPath = some path)
    (hfile : Schema.Unusable (world.file path)) (hinput : world'.input = world.input)
    (hconfig' : configOf world' i.config = some { config with schemaPath := none }) :
    execute reader world i = execute reader world' { i with schema := none } := by
  have hquery : queryText world' i.command = queryText world i.command := by
    rw [queryText, queryText, hinput]
  rw [execute_eq, execute_eq, hconfig, hconfig', hquery]
  simp only [hpath, schemaOf_of_unusable hfile]
  rfl

/-- A check under a configuration fails exactly if the query that it is about cannot work. -/
theorem exit_execute_check_iff {world : World} {i : Invocation} {config : Config}
    {given : Option String} {json : Bool} {q : String}
    (hconfig : configOf world i.config = some config) (hcommand : i.command = .check given json)
    (hq : i.command.About world q) :
    ((execute reader world i).exit = 1
      ↔ CannotWork reader config (schemaOf world (i.schema.or config.schemaPath)) q) ∧
    ((execute reader world i).exit = 0
      ↔ ¬CannotWork reader config (schemaOf world (i.schema.or config.schemaPath)) q) := by
  have hrun : execute reader world i
      = outcome reader config (schemaOf world (i.schema.or config.schemaPath))
          (i.database.or config.databaseName) q (.check given json) := by
    rw [execute_eq, hconfig, Command.about_iff.mp hq, hcommand]
  rw [hrun]
  exact exit_outcome_check_iff reader config _ _ q given json

/-- A check has the same exit code in whichever form its diagnostics are printed. -/
theorem exit_execute_check (world : World) (i : Invocation) (given : Option String)
    (json json' : Bool) :
    (execute reader world { i with command := .check given json' }).exit
      = (execute reader world { i with command := .check given json }).exit := by
  have hquery : queryText world (.check given json') = queryText world (.check given json) := rfl
  rw [execute_eq, execute_eq, hquery]
  cases configOf world i.config with
  | none => rfl
  | some config => simp only [exit_outcome_check]

/-- **Runs that differ only in the way of the query, in a schema file without schema, or in the form
of the output**, on arguments that make sense, however queries are read.

* If a query that ends with no line break is left out of the arguments that hold it, and is the
  input instead with any line breaks behind it, the run prints the same and has the same exit code.
* If the schema file, given or configured, does not exist, is malformed or holds a table without
  name, the run prints the same and has the same exit code as if the schema option is left out and
  no schema file is configured.
* A check has exit code 1 if the query that it is about cannot work, and 0 otherwise, with
  diagnostics as JSON or in lines.  The query is the given one, or else the input up to the line
  breaks at its end, and there always is one. -/
theorem run_eq_run {args : List String} {i : Invocation} (h : read args = some (.invocation i))
    (world : World) :
    (∀ q, i.command.query = some q → (∀ c ∈ q.toList.getLast?, isLineBreak c = false) →
      ∃ as bs, args = as ++ q :: bs ∧ read (as ++ bs) = some (.invocation (i.withQuery none)) ∧
        ∀ args', read args' = some (.invocation (i.withQuery none)) →
          ∀ breaks : String, (∀ c ∈ breaks.toList, isLineBreak c = true) →
            runOf reader world args = runOf reader { world with input := q ++ breaks } args') ∧
    (∀ config path, configOf world i.config = some config →
      i.schema.or config.schemaPath = some path → Schema.Unusable (world.file path) →
      ∃ fewer, fewer.Sublist args ∧ read fewer = some (.invocation { i with schema := none }) ∧
        ∀ args', read args' = some (.invocation { i with schema := none }) →
          ∀ world', world'.input = world.input →
            configOf world' i.config = some { config with schemaPath := none } →
              runOf reader world args = runOf reader world' args') ∧
    i.command.About world (queryText world i.command) ∧
    (∀ config given json query, configOf world i.config = some config →
      i.command = .check given json → i.command.About world query →
      let schema := schemaOf world (i.schema.or config.schemaPath)
      ((runOf reader world args).exit = 1 ↔ CannotWork reader config schema query) ∧
      ((runOf reader world args).exit = 0 ↔ ¬CannotWork reader config schema query) ∧
      ∀ args' json', read args' = some (.invocation { i with command := .check given json' }) →
        (runOf reader world args').exit = (runOf reader world args).exit) := by
  rw [runOf_of_read reader h]
  refine ⟨?_, ?_, i.command.about_queryText world, ?_⟩
  · intro q hi hq
    obtain ⟨as, bs, hargs, hread⟩ := exists_read_without_query h hi
    refine ⟨as, bs, hargs, hread, fun args' hargs' breaks hbreaks => ?_⟩
    rw [runOf_of_read reader hargs', execute_withQuery reader hi hq hbreaks]
  · intro config path hconfig hpath hfile
    obtain ⟨fewer, hsub, hread⟩ := exists_read_without_schema h
    refine ⟨fewer, hsub, hread, fun args' hargs' world' hinput hconfig' => ?_⟩
    rw [runOf_of_read reader hargs']
    exact execute_of_unusable reader hconfig hpath hfile hinput hconfig'
  · intro config given json query hconfig hcommand hquery schema
    obtain ⟨hone, hzero⟩ := exit_execute_check_iff reader hconfig hcommand hquery
    refine ⟨hone, hzero, fun args' json' hargs' => ?_⟩
    have hself : i = { i with command := .check given json } := by rw [← hcommand]
    rw [runOf_of_read reader hargs', exit_execute_check reader world i given json json', ← hself]

end

/-- A check of a query without an end, and a schema file that holds a table without name.  The query
may come from the input with line breaks behind it, the schema file may be left out, and the exit
code is 1, also if the diagnostics are printed as JSON. -/
theorem run_eq_run_unusable_schema :
    let world : World :=
      ⟨fun _ => none, fun path => if path = "s.json" then some "[[\"\"]]" else none, ""⟩
    let given : List String := ["-s", "s.json", "check", "SELECT"]
    let i : Invocation := ⟨none, some "s.json", none, .check (some "SELECT") false⟩
    let input : List String := ["-s", "s.json", "check"]
    let json : List String := ["-s", "s.json", "check", "--json", "SELECT"]
    read given = some (.invocation i) ∧ configOf world none = some Config.default ∧
      Schema.Unusable (world.file "s.json") ∧ i.command.About world "SELECT" ∧
      CannotWork Sql.readQuery Config.default none "SELECT" ∧
        run world given = run { world with input := "SELECT" ++ "\n\r\n" } input ∧
          run world given = run world ["check", "SELECT"] ∧ (run world given).exit = 1 ∧
            (run world json).exit = (run world given).exit := by
  intro world given i input json
  have hread : read given = some (.invocation i) := by decide +kernel
  have hconfig : configOf world none = some Config.default := by decide +kernel
  have hfile : Schema.Unusable (world.file "s.json") :=
    .nameless (show _ = some [⟨"", []⟩] by decide +kernel) List.mem_cons_self rfl
  have habout : i.command.About world "SELECT" := .given rfl
  have hfatal : CannotWork Sql.readQuery Config.default none "SELECT" :=
    ⟨.syntaxError 6, by decide +kernel, .inl rfl⟩
  obtain ⟨hinput, hschema, -, hcheck⟩ := run_eq_run Sql.readQuery hread world
  obtain ⟨-, -, -, -, hbreaks⟩ := hinput "SELECT" rfl (by simp [isLineBreak])
  obtain ⟨-, -, -, hplain⟩ := hschema Config.default "s.json" hconfig rfl hfile
  obtain ⟨hexit, -, hjson⟩ := hcheck Config.default _ _ "SELECT" hconfig rfl habout
  have hnoSchema : schemaOf world (some "s.json") = none := schemaOf_of_unusable hfile
  refine ⟨hread, hconfig, hfile, habout, hfatal, ?_, ?_, ?_, ?_⟩
  · exact hbreaks input (by decide +kernel) "\n\r\n" (by simp [isLineBreak])
  · exact hplain ["check", "SELECT"] (by decide +kernel) world rfl hconfig
  · refine hexit.mpr ?_
    rw [show i.schema.or Config.default.schemaPath = some "s.json" from rfl, hnoSchema]
    exact hfatal
  · exact hjson _ true (by decide +kernel)

end CommandLine

end SqlAnalysis
