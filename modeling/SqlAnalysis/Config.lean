import SqlAnalysis.Toml.Reader

/-!
# Configuration

Four settings, each from the environment, from a configuration file, or by default, in this
order of preference.  A setting that cannot be read in either place makes the configuration
invalid, even if the other place would win.  An empty variable that is no number counts as
unset.

## Main definitions

* `Config` — the settings.
* `Config.load` — the settings from an environment and the text of a file.
-/

namespace SqlAnalysis

/-- The settings of the program. -/
structure Config where
  /-- The number of queries whose parse is kept. -/
  cacheCapacity : Nat
  /-- The number of bytes that a query may have to be parsed at all. -/
  maxQueryLength : Nat
  /-- The name of the database for messages. -/
  databaseName : Option String
  /-- The file to load a schema from. -/
  schemaPath : Option String
  deriving DecidableEq, Repr, Inhabited

namespace Config

/-- The settings that hold unless something else is said. -/
def default : Config :=
  ⟨512, 65536, none, none⟩

/-- The values of environment variables. -/
abbrev Environment := String → Option String

/-- A number from the environment, blanks around it ignored.  Nothing if it is unset; an error
if it is no number. -/
def envNumber (env : Environment) (name : String) : Except Unit (Option Nat) :=
  match env name with
  | none => .ok none
  | some s =>
    match Text.decimal? (Text.trim s.toList) with
    | some n => .ok (some n)
    | none => if s.isEmpty then .ok none else .error ()

/-- A number from a file.  Nothing if it is not there; an error if it is anything else. -/
def fileNumber (entries : Toml.Entries) (key : String) : Except Unit (Option Nat) :=
  match entries.lookup key with
  | none => .ok none
  | some (.leaf (.integer n)) => if 0 ≤ n ∧ n < Text.numberLimit then .ok (some n.toNat) else .error ()
  | some _ => .error ()

/-- A text from a file.  Nothing if it is not there; an error if it is anything else. -/
def fileText (entries : Toml.Entries) (key : String) : Except Unit (Option String) :=
  match entries.lookup key with
  | none => .ok none
  | some (.leaf (.text s)) => .ok (some s)
  | some _ => .error ()

/-- The settings from an environment and the entries of a file. -/
def combine (env : Environment) (entries : Toml.Entries) : Except Unit Config := do
  let envCapacity ← envNumber env "SQLSENSE_CACHE_CAPACITY"
  let envLength ← envNumber env "SQLSENSE_MAX_QUERY_LEN"
  let fileCapacity ← fileNumber entries "cache_capacity"
  let fileLength ← fileNumber entries "max_query_len"
  let fileDatabase ← fileText entries "database_name"
  let filePath ← fileText entries "schema_path"
  return {
    cacheCapacity := (envCapacity.or fileCapacity).getD default.cacheCapacity
    maxQueryLength := (envLength.or fileLength).getD default.maxQueryLength
    databaseName := (env "SQLSENSE_DATABASE_NAME").or fileDatabase
    schemaPath := (env "SQLSENSE_SCHEMA_PATH").or filePath }

/-- The settings from an environment and the text of a file; a file that does not exist is
empty.  Nothing if the configuration is invalid. -/
def load (env : Environment) (file : Option String) : Option Config := do
  let entries ← Toml.document? (file.getD "")
  (combine env entries).toOption

end Config

end SqlAnalysis
