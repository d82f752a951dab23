import SqlAnalysis.Sql.Grammar.Removal

/-!
# Rights

Rights are given, denied and taken: which rights, on which things, and whose.  None of the names
counts as a table that is used.

## Main definitions

* `grant`, `denial`, `revocation` — statements behind their first words.
-/

namespace SqlAnalysis.Sql.Grammar.Privilege

/-! ### Rights -/

/-- Rights of more than one word. -/
def longRights : List (List String) :=
  [["IMPORTED", "PRIVILEGES"], ["ADD", "SEARCH", "OPTIMIZATION"], ["ATTACH", "LISTING"],
   ["ATTACH", "POLICY"], ["BIND", "SERVICE", "ENDPOINT"]]

/-- Rights of more than one word that are looked for behind the rights to roles. -/
def laterLongRights : List (List String) :=
  [["EVOLVE", "SCHEMA"], ["IMPORT", "SHARE"], ["MANAGE", "VERSIONS"], ["MANAGE", "RELEASES"],
   ["OVERRIDE", "SHARE", "RESTRICTIONS"], ["PURCHASE", "DATA", "EXCHANGE", "LISTING"],
   ["RESOLVE", "ALL"], ["READ", "SESSION"]]

/-- Rights of one word. -/
def shortRights : List String :=
  ["APPLYBUDGET", "AUDIT", "CONNECT", "DELETE", "DROP", "EXEC", "FAILOVER", "OPERATE",
   "OWNERSHIP", "READ", "REPLICATE", "TEMPORARY", "TRIGGER", "TRUNCATE", "USAGE"]

/-- The kinds of things that a right to create may be limited to. -/
def creatable : List (List String) :=
  [["APPLICATION", "PACKAGE"], ["APPLICATION"], ["COMPUTE", "POOL"], ["DATA", "EXCHANGE", "LISTING"],
   ["EXTERNAL", "VOLUME"], ["FAILOVER", "GROUP"], ["NETWORK", "POLICY"],
   ["ORGANIZATION", "LISTING"], ["REPLICATION", "GROUP"], ["ACCOUNT"], ["DATABASE"],
   ["INTEGRATION"], ["ROLE"], ["SCHEMA"], ["SHARE"], ["USER"], ["WAREHOUSE"]]

/-- What can be applied. -/
def applicable : List (List String) :=
  [["AGGREGATION", "POLICY"], ["AUTHENTICATION", "POLICY"], ["JOIN", "POLICY"],
   ["MASKING", "POLICY"], ["PACKAGES", "POLICY"], ["PASSWORD", "POLICY"],
   ["PROJECTION", "POLICY"], ["ROW", "ACCESS", "POLICY"], ["SESSION", "POLICY"], ["TAG"]]

/-- What can be carried out. -/
def executable : List (List String) :=
  [["DATA", "METRIC", "FUNCTION"], ["MANAGED", "ALERT"], ["MANAGED", "TASK"], ["ALERT"], ["TASK"]]

/-- What can be managed. -/
def manageable : List (List String) :=
  [["ACCOUNT", "SUPPORT", "CASES"], ["EVENT", "SHARING"], ["GRANTS"],
   ["LISTING", "AUTO", "FULFILLMENT"], ["USER", "SUPPORT", "CASES"], ["WAREHOUSES"]]

/-- What can be modified. -/
def modifiable : List (List String) :=
  [["LOG", "LEVEL"], ["TRACE", "LEVEL"], ["SESSION", "LOG", "LEVEL"],
   ["SESSION", "TRACE", "LEVEL"]]

/-- What can be watched. -/
def watchable : List (List String) :=
  [["EXECUTION"], ["SECURITY"], ["USAGE"]]

/-- One of the phrases `kinds` has to come next. -/
def required (what : String) (kinds : List (List String)) : Rule Unit := do
  unless ← anyOf (kinds.map keywords?) do expectedHere what

/-- A right. -/
def right : Rule Unit := do
  if ← anyOf (longRights.map keywords?) then return ()
  if ← anyOf [keywords? ["DATABASE", "ROLE"], keyword? "ROLE"] then
    discard name
    return ()
  if ← anyOf (laterLongRights.map keywords?) then return ()
  if (← oneOf? shortRights).isSome then return ()
  match ← oneOf? ["CREATE", "APPLY", "EXECUTE", "INSERT", "MANAGE", "MODIFY", "MONITOR",
      "REFERENCES", "SELECT", "UPDATE"] with
  | some "CREATE" => discard <| anyOf (creatable.map keywords?)
  | some "APPLY" => required "GRANT APPLY type" applicable
  | some "EXECUTE" => discard <| anyOf (executable.map keywords?)
  | some "MANAGE" => required "GRANT MANAGE type" manageable
  | some "MODIFY" => discard <| anyOf (modifiable.map keywords?)
  | some "MONITOR" => discard <| anyOf (watchable.map keywords?)
  | some _ => discard <| columnList true false
  | none => expectedHere "a privilege keyword"

/-! ### Things -/

/-- A name in which a star may stand for a part. -/
def starName : Rule Unit := do
  let part : Rule Unit := do
    unless ← symbol? "*" do discard ident
  part
  discard <| collect do
    if ← symbol? "." then return some (← part) else return none

/-- Everything of one kind in a schema or a database. -/
def collective : List (List String) :=
  (["TABLES", "EXTERNAL TABLES", "VIEWS", "MATERIALIZED VIEWS", "FUNCTIONS", "SEQUENCES"].map
    fun k => "ALL" :: k.splitOn " " ++ ["IN", "SCHEMA"]) ++
  [["FUTURE", "SCHEMAS", "IN", "DATABASE"]] ++
  (["TABLES", "EXTERNAL TABLES", "VIEWS", "MATERIALIZED VIEWS", "SEQUENCES"].map
    fun k => "FUTURE" :: k.splitOn " " ++ ["IN", "SCHEMA"])

/-- Kinds of things in whose names no star may stand. -/
def plainlyNamed : List (List String) :=
  [["RESOURCE", "MONITOR"], ["COMPUTE", "POOL"], ["FAILOVER", "GROUP"], ["REPLICATION", "GROUP"],
   ["EXTERNAL", "VOLUME"]]

/-- Other kinds of things that rights can be on. -/
def grantable : List String :=
  ["SEQUENCE", "DATABASE", "SCHEMA", "TABLE", "VIEW", "WAREHOUSE", "INTEGRATION", "USER",
   "CONNECTION", "PROCEDURE", "FUNCTION"]

/-- The things that rights are on, behind the word `ON`.  Routines may have the types of their
arguments behind their names. -/
def things (r : Rules) : Rule (List Part) := do
  if ← anyOf ((collective ++ plainlyNamed).map keywords?) then
    discard <| commaSeparated name
    return []
  let kind ← oneOf? grantable
  discard <| commaSeparated starName
  unless kind = some "PROCEDURE" || kind = some "FUNCTION" do return []
  unless ← symbol? "(" do return []
  let types ← commaSeparatedUntil ")" (dataType r)
  symbol ")"
  return types.flatMap (·.parts)

/-- Rights and the things that they are on; nothing if no things are named. -/
def rightsOnThings (r : Rules) : Rule (Option (List Part)) := do
  if ← keyword? "ALL" then discard <| keyword? "PRIVILEGES"
  else discard <| commaSeparated right
  after? "ON" (things r)

/-! ### Holders of rights -/

/-- The kinds of those who hold rights. -/
def holders : List (List String) :=
  [["ROLE"], ["USER"], ["SHARE"], ["GROUP"], ["PUBLIC"], ["DATABASE", "ROLE"],
   ["APPLICATION", "ROLE"], ["APPLICATION"]]

/-- The first of several phrases that comes next. -/
def phrase? : List (List String) → Rule (Option (List String))
  | [] => return none
  | ks :: rest => do if ← keywords? ks then return some ks else phrase? rest

/-- Those who get rights, or lose them; at most `fuel` of them.  The kind is that of the one
before if it is left out.  The public has no name. -/
def granteesFrom : (fuel : Nat) → (kind : List String) → Rule Unit
  | 0, _ => return ()
  | fuel + 1, kind => do
    let kind := (← phrase? holders).getD kind
    unless kind = ["PUBLIC"] do
      grantee
      if ← symbol? ":" then discard ident
    if ← symbol? "," then granteesFrom fuel kind

/-- Those who get rights, or lose them. -/
def grantees : Rule Unit := do
  granteesFrom ((← read).items.size + 1) []

/-! ### Statements -/

/-- Rights are given, behind the word `GRANT`. -/
def grant (r : Rules) : Rule (List Part) := do
  let parts ← rightsOnThings r
  keyword "TO"
  grantees
  discard <| keywords? ["WITH", "GRANT", "OPTION"]
  unless ← keywords? ["COPY", "CURRENT", "GRANTS"] do
    discard <| keywords? ["REVOKE", "CURRENT", "GRANTS"]
  if ← keyword? "AS" then discard ident
  if ← keywords? ["GRANTED", "BY"] then discard ident
  return parts.getD []

/-- Rights are taken, behind the word `REVOKE`. -/
def revocation (r : Rules) : Rule (List Part) := do
  let parts ← rightsOnThings r
  keyword "FROM"
  grantees
  if ← keywords? ["GRANTED", "BY"] then discard ident
  dropBehavior
  return parts.getD []

/-- Rights are denied, behind the word `DENY`.  They have to be on something. -/
def denial (r : Rules) : Rule (List Part) := do
  match ← rightsOnThings r with
  | none => reject ("DENY statements must specify an object" ++ placeOf (← peek))
  | some parts =>
    keyword "TO"
    grantees
    dropBehavior
    if ← keyword? "AS" then discard ident
    return parts

end SqlAnalysis.Sql.Grammar.Privilege
