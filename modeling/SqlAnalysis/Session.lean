import SqlAnalysis.Completion
import SqlAnalysis.Diagnostic
import SqlAnalysis.Hover

/-!
# Sessions

An editor asks about the same query over and over, so parses are kept.  The cache maps the
exact text of a query to its parse; a fault is never kept, and the next request for the same
text asks the front end again.  A request asks for a parse only where its answer needs one.
Analyzers that are clones of each other share one cache.

## Main definitions

* `Cache` — the parses that are kept, by query text.
* `Session` — a cache together with the number of times the front end was asked.
* `Request`, `Response` — what can be asked, and the answers.
* `Session.parse` — the parse of a query, through the cache.
* `Session.step` — answering one request.
* `Analyzers` — several analyzers and the caches that they share.
* `Event`, `Analyzers.run` — what happens to analyzers, and all of it in order.
-/

namespace SqlAnalysis

/-- Parses by query text, the latest first. -/
abbrev Cache := List (String × Parse)

/-- The state of a session. -/
structure Session where
  /-- The parses that are kept. -/
  cache : Cache
  /-- How often the front end was asked. -/
  calls : Nat
  deriving Repr, Inhabited

/-! ### Front ends that fail now and then -/

/-- A source of parses that may answer differently from call to call; calls are counted from
one. -/
abbrev CountedFrontend := Nat → Frontend

/-- The front end that gives the answers of `frontend`, except at the call numbers that have a
fault of their own. -/
def interrupted (faults : Nat → Option Fault) (frontend : Frontend) : CountedFrontend :=
  fun n query =>
    match faults n with
    | some fault => .error fault
    | none => frontend query

/-- The front end that gives the answers of `frontend`, but has the given fault at some call
numbers. -/
def faultingAt (faults : List Nat) (fault : Fault) (frontend : Frontend) : CountedFrontend :=
  interrupted (fun n => if n ∈ faults then some fault else none) frontend

/-! ### Requests -/

/-- What can be asked in a session. -/
inductive Request
  /-- The problem of a query. -/
  | analyze (query : String) (schema : Option Schema)
  /-- Its parse. -/
  | parse (query : String)
  /-- Its diagnostics. -/
  | diagnose (query : String) (schema : Option Schema) (database : Option String)
  /-- The information about a word. -/
  | hover (query : String) (offset : Nat) (schema : Option Schema)
  /-- The completion list. -/
  | complete (query : String) (schema : Option Schema)

/-- The answers. -/
inductive Response
  | problem (p : Option Problem)
  | parse (p : Option Parse)
  | diagnostics (ds : List Diagnostic)
  | info (i : Option QuickInfo)
  | entries (cs : List Completion)

/-- The query that a request is about. -/
def Request.query : Request → String
  | analyze q _ => q
  | parse q => q
  | diagnose q _ _ => q
  | hover q _ _ => q
  | complete q _ => q

namespace Session

/-- A session that has not been asked anything. -/
def initial : Session :=
  ⟨[], 0⟩

/-- The parse of a query that the cache keeps. -/
def cached? (s : Session) (query : String) : Option Parse :=
  s.cache.lookup query

/-- The parse of a query, from the cache if it is there; otherwise the front end is asked, and
an answer that is no fault is kept. -/
def parse (frontend : CountedFrontend) (s : Session) (query : String) :
    Session × Option Parse :=
  match s.cached? query with
  | some p => (s, some p)
  | none =>
    match frontend (s.calls + 1) query with
    | .ok p => (⟨(query, p) :: s.cache, s.calls + 1⟩, some p)
    | .error _ => (⟨s.cache, s.calls + 1⟩, none)

/-- The problem of a query; a blank query is not parsed. -/
def problem (frontend : CountedFrontend) (s : Session) (query : String)
    (schema : Option Schema) : Session × Option Problem :=
  if isBlankQuery query then (s, some .emptyQuery)
  else
    let (s, p) := s.parse frontend query
    (s, analyzeParse query schema p)

/-- The diagnostics of a query. -/
def diagnostics (frontend : CountedFrontend) (s : Session) (query : String)
    (schema : Option Schema) (database : Option String) : Session × List Diagnostic :=
  let (s, p) := s.problem frontend query schema
  (s, (p.map (Diagnostic.ofProblem schema database query)).toList)

/-- The information about the word at an offset; without a schema nothing is parsed. -/
def info (frontend : CountedFrontend) (s : Session) (query : String) (offset : Nat)
    (schema : Option Schema) : Session × Option QuickInfo :=
  match locate offset query with
  | none => (s, none)
  | some word =>
    match schema with
    | none => (s, some (wordInfo none none word))
    | some catalog =>
      let (s, p) := s.parse frontend query
      (s, some (wordInfo (some catalog) p word))

/-- The completion list of a query; without a schema nothing is parsed. -/
def entries (frontend : CountedFrontend) (s : Session) (query : String)
    (schema : Option Schema) : Session × List Completion :=
  match schema with
  | none => (s, completions none none)
  | some catalog =>
    let (s, p) := s.parse frontend query
    (s, completions (some catalog) p)

/-- Answers a request. -/
def step (frontend : CountedFrontend) (s : Session) : Request → Session × Response
  | .analyze query schema =>
    let (s, p) := s.problem frontend query schema
    (s, .problem p)
  | .parse query =>
    let (s, p) := s.parse frontend query
    (s, .parse p)
  | .diagnose query schema database =>
    let (s, ds) := s.diagnostics frontend query schema database
    (s, .diagnostics ds)
  | .hover query offset schema =>
    let (s, i) := s.info frontend query offset schema
    (s, .info i)
  | .complete query schema =>
    let (s, cs) := s.entries frontend query schema
    (s, .entries cs)

end Session

/-! ### Analyzers and their clones -/

/-- Analyzers over one front end.  An analyzer is known by its handle, the position of an entry
of `handles`, which says which cache it uses. -/
structure Analyzers where
  /-- The caches. -/
  caches : List Cache
  /-- The cache of each analyzer. -/
  handles : List Nat
  /-- How often the front end was asked. -/
  calls : Nat
  deriving Repr

/-- What happens to analyzers. -/
inductive Event
  /-- An analyzer answers a request. -/
  | ask (handle : Nat) (request : Request)
  /-- An analyzer is cloned; the clone uses the same cache. -/
  | clone (handle : Nat)
  /-- A new analyzer with an empty cache is made. -/
  | fresh

namespace Analyzers

/-- One analyzer that has not been asked anything. -/
def initial : Analyzers :=
  ⟨[[]], [0], 0⟩

instance : Inhabited Analyzers := ⟨initial⟩

/-- The session that an analyzer goes on with. -/
def session? (d : Analyzers) (handle : Nat) : Option Session := do
  let cell ← d.handles[handle]?
  let cache ← d.caches[cell]?
  return ⟨cache, d.calls⟩

/-- The answer of an analyzer to a request; there is none without such an analyzer. -/
def ask (frontend : CountedFrontend) (d : Analyzers) (handle : Nat) (r : Request) :
    Analyzers × Option Response :=
  match d.handles[handle]?, d.session? handle with
  | some cell, some s =>
    let (s, a) := s.step frontend r
    (⟨d.caches.set cell s.cache, d.handles, s.calls⟩, some a)
  | _, _ => (d, none)

/-- A clone of an analyzer, and its handle. -/
def clone (d : Analyzers) (handle : Nat) : Analyzers × Nat :=
  match d.handles[handle]? with
  | some cell => ({ d with handles := d.handles ++ [cell] }, d.handles.length)
  | none => (d, handle)

/-- A new analyzer with an empty cache, and its handle. -/
def fresh (d : Analyzers) : Analyzers × Nat :=
  ({ d with caches := d.caches ++ [[]], handles := d.handles ++ [d.caches.length] },
    d.handles.length)

/-- One event, with the answer if a request was answered. -/
def step (frontend : CountedFrontend) (d : Analyzers) : Event → Analyzers × Option Response
  | .ask handle r => d.ask frontend handle r
  | .clone handle => ((d.clone handle).1, none)
  | .fresh => (d.fresh.1, none)

/-- Events one after the other, with their answers. -/
def run (frontend : CountedFrontend) (d : Analyzers) :
    List Event → Analyzers × List (Option Response)
  | [] => (d, [])
  | e :: es =>
    let (d, a) := d.step frontend e
    let (d, as) := d.run frontend es
    (d, a :: as)

end Analyzers

end SqlAnalysis
