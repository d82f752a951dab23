import SqlAnalysis.Schema.Json

/-!
# The schema store

A store holds the schema that is current, or nothing before the first one has been loaded.
Programs reach it through handles; a handle can be cloned, and clones share one store.  A
load replaces the schema as a whole, and a failed load changes nothing.

A store is locked while it is written.  A reader that does not wait sees nothing then; one that
waits gets its answer when the write is over.

## Main definitions

* `Schema.Provider`, `Provider.load` — where schemas come from.
* `Schema.Stores` — all stores and the handles on them.
* `Schema.Stores.snapshot`, `get?` — the schema that a handle shows, without and with waiting.
* `Schema.Stores.set`, `load`, `spawnLoad`, `clone`, `fresh` — the operations.
* `Schema.Step`, `Stores.run` — operations one after the other.
-/

namespace SqlAnalysis.Schema

/-! ### Providers -/

/-- A source of tables. -/
inductive Provider
  /-- Tables in memory. -/
  | fixed (tables : List Table)
  /-- A schema file with the given text; `none` stands for a file that does not exist. -/
  | file (text : Option String)
  /-- A source that refuses to give any. -/
  | failing
  deriving DecidableEq, Repr, Inhabited

/-- The tables that a source gives. -/
def Provider.load : Provider → Except LoadError (List Table)
  | fixed tables => .ok tables
  | file text => loadText text
  | failing => .error .unavailable

/-! ### Stores -/

/-- What one store holds. -/
structure Cell where
  /-- The tables of the schema, if one has been loaded. -/
  tables : Option (List Table)
  /-- The store is being written. -/
  locked : Bool
  deriving DecidableEq, Repr, Inhabited

/-- A store that has not been loaded. -/
def Cell.empty : Cell :=
  ⟨none, false⟩

/-- Stores, and handles on them.  A handle is the position of an entry of `handles`, which
says which store it belongs to. -/
structure Stores where
  /-- The stores. -/
  cells : List Cell
  /-- The store of each handle. -/
  handles : List Nat
  deriving DecidableEq, Repr

namespace Stores

/-- One empty store with one handle. -/
def initial : Stores :=
  ⟨[.empty], [0]⟩

instance : Inhabited Stores := ⟨initial⟩

/-- The handle exists. -/
def Valid (s : Stores) (handle : Nat) : Prop :=
  handle < s.handles.length

instance (s : Stores) (handle : Nat) : Decidable (s.Valid handle) :=
  inferInstanceAs (Decidable (_ < _))

/-- The store of a handle. -/
def cell? (s : Stores) (handle : Nat) : Option Cell :=
  s.handles[handle]?.bind fun i => s.cells[i]?

/-- The tables that a handle shows at once: none before a schema has been loaded, and none while
the store is being written. -/
def snapshot (s : Stores) (handle : Nat) : Option (List Table) :=
  (s.cell? handle).bind fun c => if c.locked then none else c.tables

/-- The tables that a handle shows when the store is not being written; there is no answer before
that. -/
def get? (s : Stores) (handle : Nat) : Option (Option (List Table)) :=
  (s.cell? handle).bind fun c => if c.locked then none else some c.tables

/-- The store of a handle changed by `f`. -/
def change (s : Stores) (handle : Nat) (f : Cell → Cell) : Stores :=
  match s.handles[handle]? with
  | some i => { s with cells := s.cells.modify i f }
  | none => s

/-- Begins to write a store, which has to wait while it is being written. -/
def lock? (s : Stores) (handle : Nat) : Option Stores :=
  (s.cell? handle).bind fun c =>
    if c.locked then none else some (s.change handle fun c => { c with locked := true })

/-- Puts tables into a store. -/
def install (s : Stores) (handle : Nat) (tables : List Table) : Stores :=
  s.change handle fun c => { c with tables := some tables }

/-- Writing a store is over. -/
def release (s : Stores) (handle : Nat) : Stores :=
  s.change handle fun c => { c with locked := false }

/-- Makes `tables` the schema of the store of a handle; nothing happens as long as it has to
wait. -/
def set (s : Stores) (handle : Nat) (tables : List Table) : Stores :=
  match s.lock? handle with
  | some locked => (locked.install handle tables).release handle
  | none => s

/-- Installs the tables that a source gives, and tells whether it gave any. -/
def load (s : Stores) (handle : Nat) (provider : Provider) : Stores × Bool :=
  match provider.load with
  | .ok tables => (s.set handle tables, true)
  | .error _ => (s, false)

/-- A new handle on the store of a handle, and its number. -/
def clone (s : Stores) (handle : Nat) : Stores × Nat :=
  match s.handles[handle]? with
  | some i => ({ s with handles := s.handles ++ [i] }, s.handles.length)
  | none => (s, handle)

/-- A load by a task of its own, up to its end.  The task has a clone of the handle, which goes
away with it. -/
def spawnLoad (s : Stores) (handle : Nat) (provider : Provider) : Stores × Bool :=
  let (cloned, own) := s.clone handle
  let (loaded, installed) := cloned.load own provider
  ({ loaded with handles := s.handles }, installed)

/-- A new empty store with one handle, and the number of that handle. -/
def fresh (s : Stores) : Stores × Nat :=
  (⟨s.cells ++ [.empty], s.handles ++ [s.cells.length]⟩, s.handles.length)

end Stores

/-! ### Runs -/

/-- An operation on stores. -/
inductive Step
  | set (handle : Nat) (tables : List Table)
  | load (handle : Nat) (provider : Provider)
  /-- A load by a task that is waited for. -/
  | spawnLoad (handle : Nat) (provider : Provider)
  | clone (handle : Nat)
  | fresh
  deriving DecidableEq, Repr, Inhabited

namespace Stores

/-- One operation; a load tells whether it has installed a schema. -/
def step (s : Stores) : Step → Stores × Option Bool
  | .set handle tables => (s.set handle tables, none)
  | .load handle provider =>
    let (s, installed) := s.load handle provider
    (s, some installed)
  | .spawnLoad handle provider =>
    let (s, installed) := s.spawnLoad handle provider
    (s, some installed)
  | .clone handle => ((s.clone handle).1, none)
  | .fresh => (s.fresh.1, none)

/-- Operations one after the other, with what they tell. -/
def run (s : Stores) : List Step → Stores × List (Option Bool)
  | [] => (s, [])
  | e :: es =>
    let (s, a) := s.step e
    let (s, as) := s.run es
    (s, a :: as)

end Stores

end SqlAnalysis.Schema
