import SqlAnalysis.CommandLine

/-!
# The program

The outside world as the command line sees it: environment variables, files and the standard
input.  Everything is decided by `CommandLine.run`.
-/

namespace SqlAnalysis

/-- The text of a file, if it can be read. -/
def readFile (path : String) : IO (Option String) := do
  try
    return some (← IO.FS.readFile path)
  catch _ => return none

/-- The variables of the environment that the program looks at. -/
def environment : IO Config.Environment := do
  let names := ["SQLSENSE_CONFIG", "SQLSENSE_CACHE_CAPACITY", "SQLSENSE_MAX_QUERY_LEN",
    "SQLSENSE_DATABASE_NAME", "SQLSENSE_SCHEMA_PATH"]
  let values ← names.filterMapM fun n => do
    return (← IO.getEnv n).map (n, ·)
  return fun n => values.lookup n

/-- The texts of the files at several paths. -/
def readFiles (paths : List String) : IO (String → Option String) := do
  let texts ← paths.mapM fun p => do
    return (p, ← readFile p)
  return fun p => (texts.lookup p).join

/-- The files and the input that a run looks at. -/
def worldOf (env : Config.Environment) (i : CommandLine.Invocation) : IO CommandLine.World := do
  let configPath := i.config.or (env "SQLSENSE_CONFIG")
  let configFile ← readFiles configPath.toList
  let config := CommandLine.configOf ⟨env, configFile, ""⟩ i.config
  let schemaPath := i.schema.or (config.bind (·.schemaPath))
  let file ← readFiles (configPath.toList ++ schemaPath.toList)
  let input ← if i.command.query.isSome then pure "" else (← IO.getStdin).readToEnd
  return ⟨env, file, input⟩

end SqlAnalysis

open SqlAnalysis in
/-- Runs the program. -/
def main (args : List String) : IO UInt32 := do
  let env ← environment
  let world ← match CommandLine.read args with
    | some (.invocation i) => worldOf env i
    | _ => pure ⟨env, fun _ => none, ""⟩
  let outcome := CommandLine.run world args
  IO.print outcome.output
  if outcome.exit = 2 then IO.eprintln "error: wrong arguments or configuration; see --help"
  return outcome.exit.toUInt32
