import Mathlib.Data.List.Basic
import Mathlib.Data.List.Induction
import Mathlib.Logic.Relation
import SqlAnalysis.Schema.Store

/-!
# What stores show over whole runs

A handle is made by cloning another one, or together with a store of its own; the handles that come
from each other by cloning are a family.  After any operations, what a handle shows are the tables
that were installed last through a handle of its family.  So clones share what is installed later
as well, other families do not see it, and a load that fails leaves no trace.

The history of a run is how its handles were made and what was installed through them, in order.
The invariant of the run compares it with the stores: handles share a store exactly if they are of
one family, a store holds what was installed last through a handle on it, and no store is being
written between two operations.

## Main definitions

* `Provider.Gives` — the tables that a source gives.
* `origins`, `installations` — the history of operations.
* `Proper` — operations that use only handles that exist.
* `Family` — handles that come from each other by cloning.
* `lastInstalled` — the tables that were installed last through a handle of a family.
* `Stores.Outcome` — everything that an operation can do.
* `Stores.Tracks` — the invariant of a run.

## Main results

* `Provider.load_eq_ok_iff` — a source loads what it gives.
* `Stores.snapshot_lock?` — while a store is being written, its handles show nothing.
* `Stores.outcome_step` — every operation has one of the outcomes.
* `Stores.tracks_run` — the invariant holds after all operations.
* `Stores.snapshot_eq_lastInstalled` — **every handle shows what was installed last through its
  family.**
-/

namespace SqlAnalysis.Schema

/-! ### Providers -/

/-- The tables that a source gives: those in memory, or those that the text of a file describes, if
all of them have names. -/
inductive Provider.Gives : Provider → List Table → Prop
  | fixed (tables : List Table) : Gives (.fixed tables) tables
  | file {text : String} {v : Json} {tables : List Table} (hparse : Json.parse? text = some v)
    (hread : readTables? v = some tables) (hnames : ∀ t ∈ tables, t.name ≠ "") :
    Gives (.file (some text)) tables

theorem checkNames_eq_ok_iff {tables ts : List Table} :
    checkNames tables = .ok ts ↔ tables = ts ∧ ∀ t ∈ tables, t.name ≠ "" := by
  have hnameless : tables.find? (·.name.isEmpty) = none ↔ ∀ t ∈ tables, t.name ≠ "" := by
    simp [List.find?_eq_none]
  unfold checkNames
  cases hfind : tables.find? (·.name.isEmpty) with
  | none =>
    have hnames := hnameless.mp hfind
    simpa using fun _ => hnames
  | some t =>
    have hnot : ¬∀ t ∈ tables, t.name ≠ "" := by
      rw [← hnameless, hfind]
      simp
    simp [hnot]

/-- A source loads what it gives. -/
theorem Provider.load_eq_ok_iff {p : Provider} {ts : List Table} :
    p.load = .ok ts ↔ p.Gives ts := by
  constructor
  · intro h
    cases p with
    | fixed tables =>
      cases h
      exact .fixed ts
    | file text =>
      cases text with
      | none => cases h
      | some text =>
        simp only [load, loadText] at h
        cases hparse : Json.parse? text with
        | none => simp [hparse] at h
        | some v =>
          simp only [hparse, loadJson] at h
          cases hread : readTables? v with
          | none => simp [hread] at h
          | some tables =>
            simp only [hread] at h
            obtain ⟨rfl, hnames⟩ := checkNames_eq_ok_iff.mp h
            exact .file hparse hread hnames
    | failing => cases h
  · intro h
    cases h with
    | fixed tables => rfl
    | file hparse hread hnames =>
      simp only [load, loadText, hparse, loadJson, hread]
      exact checkNames_eq_ok_iff.mpr ⟨rfl, hnames⟩

/-! ### The history of a run -/

namespace Step

/-- The handle that an operation uses. -/
def handle? : Step → Option Nat
  | set handle _ | load handle _ | spawnLoad handle _ | clone handle => some handle
  | fresh => none

/-- How an operation makes a handle, if it makes one: as a clone of another one, or with a store of
its own. -/
def origin? : Step → Option (Option Nat)
  | clone handle => some (some handle)
  | fresh => some none
  | _ => none

/-- The tables that an operation installs, if it does, and the handle that it uses. -/
def installation? : Step → Option (Nat × List Table)
  | set handle tables => some (handle, tables)
  | load handle provider | spawnLoad handle provider =>
    provider.load.toOption.map fun tables => (handle, tables)
  | _ => none

theorem handle?_of_installation? {step : Step} {e : Nat × List Table}
    (h : step.installation? = some e) : step.handle? = some e.1 := by
  cases step with
  | set handle tables =>
    cases h
    rfl
  | load handle provider | spawnLoad handle provider =>
    obtain ⟨tables, -, rfl⟩ := Option.map_eq_some_iff.mp h
    rfl
  | _ => cases h

end Step

/-- How the handles were made: the first one with a store of its own, then one for each operation
that makes one. -/
def origins (steps : List Step) : List (Option Nat) :=
  none :: steps.filterMap Step.origin?

/-- What was installed, and through which handles. -/
def installations (steps : List Step) : List (Nat × List Table) :=
  steps.filterMap Step.installation?

@[simp] theorem origins_concat (steps : List Step) (step : Step) :
    origins (steps ++ [step]) = origins steps ++ step.origin?.toList := by
  cases h : step.origin? <;> simp [origins, h]

@[simp] theorem installations_concat (steps : List Step) (step : Step) :
    installations (steps ++ [step]) = installations steps ++ step.installation?.toList := by
  cases h : step.installation? <;> simp [installations, h]

/-- Operations that use only handles that exist. -/
inductive Proper : List Step → Prop
  | nil : Proper []
  | concat {steps : List Step} {step : Step} (hsteps : Proper steps)
    (hstep : ∀ g, step.handle? = some g → g < (origins steps).length) : Proper (steps ++ [step])

/-- Two handles come from each other by cloning. -/
def Family (os : List (Option Nat)) : Nat → Nat → Prop :=
  Relation.EqvGen fun g h => os[h]? = some (some g)

/-- A family stays together when further handles are made. -/
theorem Family.append {os : List (Option Nat)} {g h : Nat} (hfamily : Family os g h)
    (os' : List (Option Nat)) : Family (os ++ os') g h := by
  refine Relation.EqvGen.mono ?_ g h hfamily
  intro g h horigin
  obtain ⟨hlt, -⟩ := List.getElem?_eq_some_iff.mp horigin
  exact (List.getElem?_append_left hlt).trans horigin

open Classical in
/-- The tables that were installed last through a handle of the family of a handle; none if there
were none. -/
noncomputable def lastInstalled (os : List (Option Nat)) (log : List (Nat × List Table))
    (handle : Nat) : Option (List Table) :=
  ((log.filter fun e => Family os e.1 handle).getLast?).map (·.2)

/-- Something was installed if and only if some handle of the family was used for it. -/
theorem isSome_lastInstalled_iff {os : List (Option Nat)} {log : List (Nat × List Table)}
    {handle : Nat} :
    (lastInstalled os log handle).isSome ↔ ∃ e ∈ log, Family os e.1 handle := by
  rw [lastInstalled, Option.isSome_map, List.getLast?_isSome, Ne, List.filter_eq_nil_iff]
  simp

namespace Stores

/-! ### What an operation can do -/

variable {s : Stores}

theorem handles_change (s : Stores) (g : Nat) (f : Cell → Cell) :
    (s.change g f).handles = s.handles := by
  unfold change
  split <;> rfl

theorem change_change (s : Stores) (g : Nat) (f₁ f₂ : Cell → Cell) :
    (s.change g f₁).change g f₂ = s.change g (f₂ ∘ f₁) := by
  rw [change, handles_change]
  unfold change
  cases hi : s.handles[g]? with
  | none => rfl
  | some i => simp only [List.modify_modify_eq]

theorem change_eq_set {g i : Nat} {c : Cell} (hi : s.handles[g]? = some i)
    (hc : s.cells[i]? = some c) (f : Cell → Cell) :
    s.change g f = { s with cells := s.cells.set i (f c) } := by
  simp only [change, hi, List.modify_eq_set_getElem?, hc]
  rfl

/-- Writing a store that is not being written replaces its tables, and it is not being written
afterwards. -/
theorem set_eq {g i : Nat} {c : Cell} (hi : s.handles[g]? = some i) (hc : s.cells[i]? = some c)
    (hfree : c.locked = false) (ts : List Table) :
    s.set g ts = { s with cells := s.cells.set i ⟨some ts, false⟩ } := by
  have hlock : s.lock? g = some (s.change g fun c => { c with locked := true }) := by
    simp [lock?, cell?, hi, hc, hfree]
  rw [set, hlock]
  simp only [install, release]
  rw [change_change, change_change, change_eq_set hi hc]
  rfl

/-- While a store is being written, its handles show nothing, and readers that wait get no
answer. -/
theorem snapshot_lock? {s' : Stores} {g h : Nat} (hlock : s.lock? g = some s')
    (hsame : s.handles[h]? = s.handles[g]?) : s'.snapshot h = none ∧ s'.get? h = none := by
  obtain ⟨c, hcell, hlocked⟩ := Option.bind_eq_some_iff.mp hlock
  obtain ⟨i, hi, hc⟩ := Option.bind_eq_some_iff.mp hcell
  obtain ⟨hlt, -⟩ := List.getElem?_eq_some_iff.mp hc
  split at hlocked
  · cases hlocked
  · cases hlocked
    rw [change_eq_set hi hc]
    simp [snapshot, get?, cell?, hsame, hi, hlt]

/-- Everything that an operation can do to stores that are not being written: nothing, put tables
into the store of a handle, make a clone, or make a store. -/
inductive Outcome (s : Stores) (step : Step) : Stores → Prop
  | keeps (horigin : step.origin? = none) (hinstallation : step.installation? = none) :
    Outcome s step s
  | puts {g i : Nat} {ts : List Table} (horigin : step.origin? = none)
    (hinstallation : step.installation? = some (g, ts)) (hi : s.handles[g]? = some i) :
    Outcome s step { s with cells := s.cells.set i ⟨some ts, false⟩ }
  | clones {g i : Nat} (horigin : step.origin? = some (some g))
    (hinstallation : step.installation? = none) (hi : s.handles[g]? = some i) :
    Outcome s step { s with handles := s.handles ++ [i] }
  | founds (horigin : step.origin? = some none) (hinstallation : step.installation? = none) :
    Outcome s step ⟨s.cells ++ [.empty], s.handles ++ [s.cells.length]⟩

/-- The stores that the handles are on exist, and none of them is being written. -/
structure Idle (s : Stores) : Prop where
  /-- The store of a handle exists. -/
  cell_lt : ∀ i ∈ s.handles, i < s.cells.length
  /-- No store is being written. -/
  free : ∀ c ∈ s.cells, c.locked = false

theorem Idle.exists_cell (hs : s.Idle) {g : Nat} (hg : g < s.handles.length) :
    ∃ i c, s.handles[g]? = some i ∧ s.cells[i]? = some c ∧ c.locked = false := by
  have hlt := hs.cell_lt _ (List.getElem_mem hg)
  exact ⟨_, _, List.getElem?_eq_getElem hg, List.getElem?_eq_getElem hlt,
    hs.free _ (List.getElem_mem hlt)⟩

/-- No handle is on a store that does not exist. -/
theorem Idle.getElem?_handles_ne (hs : s.Idle) (g : Nat) :
    s.handles[g]? ≠ some s.cells.length :=
  fun hg => Nat.lt_irrefl _ (hs.cell_lt _ (List.mem_of_getElem? hg))

theorem load_ok {p : Provider} {ts : List Table} (hp : p.load = .ok ts) (g : Nat) :
    s.load g p = (s.set g ts, true) := by
  simp only [load, hp]

theorem load_error {p : Provider} {e : LoadError} (hp : p.load = .error e) (g : Nat) :
    s.load g p = (s, false) := by
  simp only [load, hp]

/-- A load by a task of its own does what the load itself does: the clone of the task is on the same
store, and it is gone afterwards. -/
theorem spawnLoad_eq_load (hs : s.Idle) {g : Nat} (hg : g < s.handles.length) (p : Provider) :
    s.spawnLoad g p = s.load g p := by
  obtain ⟨i, c, hi, hc, hfree⟩ := hs.exists_cell hg
  have hown : (s.handles ++ [i])[s.handles.length]? = some i := List.getElem?_concat_length
  simp only [spawnLoad, clone, hi]
  cases hp : p.load with
  | ok ts =>
    have hset := set_eq (s := { s with handles := s.handles ++ [i] }) hown hc hfree ts
    rw [load_ok hp, load_ok hp, hset, set_eq hi hc hfree]
  | error e => rw [load_error hp, load_error hp]

/-- Every operation through a handle that exists has one of the outcomes. -/
theorem outcome_step (hs : s.Idle) {step : Step}
    (hstep : ∀ g, step.handle? = some g → g < s.handles.length) :
    s.Outcome step (s.step step).1 := by
  have hload : ∀ g p, step.handle? = some g → step.origin? = none →
      step.installation? = p.load.toOption.map (fun tables => (g, tables)) →
      s.Outcome step (s.load g p).1 := by
    intro g p hg horigin hinstallation
    obtain ⟨i, c, hi, hc, hfree⟩ := hs.exists_cell (hstep g hg)
    cases hp : p.load with
    | ok ts =>
      rw [load_ok hp, set_eq hi hc hfree]
      exact .puts horigin (by rw [hinstallation, hp]; rfl) hi
    | error e =>
      rw [load_error hp]
      exact .keeps horigin (by rw [hinstallation, hp]; rfl)
  cases step with
  | set g ts =>
    obtain ⟨i, c, hi, hc, hfree⟩ := hs.exists_cell (hstep g rfl)
    simp only [step, set_eq hi hc hfree]
    exact .puts rfl rfl hi
  | load g p => exact hload g p rfl rfl rfl
  | spawnLoad g p =>
    simp only [step, spawnLoad_eq_load hs (hstep g rfl)]
    exact hload g p rfl rfl rfl
  | clone g =>
    obtain ⟨i, c, hi, -⟩ := hs.exists_cell (hstep g rfl)
    simp only [step, clone, hi]
    exact .clones rfl rfl hi
  | fresh => exact .founds rfl rfl

/-! ### The invariant -/

/-- The stores are what the history says. -/
structure Tracks (os : List (Option Nat)) (log : List (Nat × List Table)) (s : Stores) : Prop
    extends s.Idle where
  /-- The handles are those that were made. -/
  length_eq : s.handles.length = os.length
  /-- A clone is on the same store. -/
  shares : ∀ {g h : Nat}, os[h]? = some (some g) → s.handles[h]? = s.handles[g]?
  /-- Handles on the same store are of one family. -/
  family : ∀ {g h i : Nat}, s.handles[g]? = some i → s.handles[h]? = some i → Family os g h
  /-- Handles that were made with stores of their own are on different stores. -/
  founds : ∀ {g h : Nat}, os[g]? = some none → os[h]? = some none →
    s.handles[g]? = s.handles[h]? → g = h
  /-- What was installed was installed through handles that exist. -/
  installed_lt : ∀ e ∈ log, e.1 < s.handles.length
  /-- A store holds what was installed last through a handle on it. -/
  holds : ∀ {i : Nat} {c : Cell}, s.cells[i]? = some c →
    c.tables = (log.filter fun e => s.handles[e.1]? = some i).getLast?.map (·.2)

/-- An element of a list with one more element behind it. -/
theorem getElem?_concat_eq_some_iff {α : Type} {l : List α} {a b : α} {k : Nat} :
    (l ++ [a])[k]? = some b ↔ l[k]? = some b ∨ k = l.length ∧ a = b := by
  rcases Nat.lt_trichotomy k l.length with hlt | rfl | hgt
  · rw [List.getElem?_append_left hlt]
    simp [Nat.ne_of_lt hlt]
  · simp
  · rw [List.getElem?_eq_none (by simp; omega), List.getElem?_eq_none (by omega)]
    simp [Nat.ne_of_gt hgt]

namespace Tracks

variable {os : List (Option Nat)} {log : List (Nat × List Table)}

theorem initial : Tracks [none] [] Stores.initial where
  cell_lt := by decide
  free := by decide
  length_eq := rfl
  shares := by
    intro g h horigin
    obtain ⟨hlt, hh⟩ := List.getElem?_eq_some_iff.mp horigin
    obtain rfl : h = 0 := Nat.lt_one_iff.mp hlt
    cases hh
  family := by
    intro g h i hg hh
    obtain ⟨hglt, -⟩ := List.getElem?_eq_some_iff.mp hg
    obtain ⟨hhlt, -⟩ := List.getElem?_eq_some_iff.mp hh
    rw [Nat.lt_one_iff.mp hglt, Nat.lt_one_iff.mp hhlt]
    exact .refl 0
  founds := by
    intro g h hg hh _
    obtain ⟨hglt, -⟩ := List.getElem?_eq_some_iff.mp hg
    obtain ⟨hhlt, -⟩ := List.getElem?_eq_some_iff.mp hh
    rw [Nat.lt_one_iff.mp hglt, Nat.lt_one_iff.mp hhlt]
  installed_lt := by simp
  holds := by
    intro i c hc
    obtain rfl : c = .empty := List.mem_singleton.mp (List.mem_of_getElem? hc)
    rfl

/-- Tables are put into the store of a handle. -/
theorem put (ht : Tracks os log s) {g i : Nat} (hi : s.handles[g]? = some i) (ts : List Table) :
    Tracks os (log ++ [(g, ts)]) { s with cells := s.cells.set i ⟨some ts, false⟩ } where
  cell_lt := by simpa using ht.cell_lt
  free := by
    intro c hc
    rcases List.mem_or_eq_of_mem_set hc with hc | rfl
    · exact ht.free c hc
    · rfl
  length_eq := ht.length_eq
  shares := ht.shares
  family := ht.family
  founds := ht.founds
  installed_lt := by
    intro e he
    rcases List.mem_append.mp he with he | he
    · exact ht.installed_lt e he
    · rw [List.mem_singleton.mp he]
      exact (List.getElem?_eq_some_iff.mp hi).1
  holds := by
    intro j c hc
    rw [List.filter_append]
    -- the new entry of the history is the last one of this store, and none of any other
    by_cases hj : i = j
    · subst hj
      have hlt := ht.cell_lt i (List.mem_of_getElem? hi)
      rw [List.getElem?_set_self hlt] at hc
      cases hc
      simp [hi]
    · rw [List.getElem?_set_ne hj] at hc
      rw [ht.holds hc]
      simp [hi, hj]

theorem installed_lt_concat (ht : Tracks os log s) (k : Nat) :
    ∀ e ∈ log, e.1 < (s.handles ++ [k]).length := by
  intro e he
  have hlt := ht.installed_lt e he
  rw [List.length_append]
  omega

/-- The handles that were used before stay where they are when a further one is made. -/
theorem filter_concat (ht : Tracks os log s) (k i : Nat) :
    (log.filter fun e => (s.handles ++ [k])[e.1]? = some i)
      = log.filter fun e => s.handles[e.1]? = some i := by
  refine List.filter_congr fun e he => ?_
  rw [List.getElem?_append_left (ht.installed_lt e he)]

/-- A handle that was made exists. -/
theorem exists_handle (ht : Tracks os log s) {o : Option Nat} {g : Nat} (hg : os[g]? = some o) :
    ∃ i, s.handles[g]? = some i := by
  obtain ⟨hlt, -⟩ := List.getElem?_eq_some_iff.mp hg
  rw [← ht.length_eq] at hlt
  exact ⟨_, List.getElem?_eq_getElem hlt⟩

/-- A handle that was made before stays where it is when a further one is made. -/
theorem getElem?_handles_concat (ht : Tracks os log s) {o : Option Nat} {g : Nat}
    (hg : os[g]? = some o) (k : Nat) : (s.handles ++ [k])[g]? = s.handles[g]? := by
  obtain ⟨i, hi⟩ := ht.exists_handle hg
  rw [hi]
  exact getElem?_concat_eq_some_iff.mpr (.inl hi)

/-- Handles that share a store still do so when a further one is made. -/
theorem shares_concat (ht : Tracks os log s) {g h : Nat} (horigin : os[h]? = some (some g))
    (k : Nat) : (s.handles ++ [k])[h]? = (s.handles ++ [k])[g]? := by
  obtain ⟨i, hi⟩ := ht.exists_handle horigin
  have hshares : s.handles[g]? = some i := (ht.shares horigin).symm.trans hi
  rw [getElem?_concat_eq_some_iff.mpr (.inl hi), getElem?_concat_eq_some_iff.mpr (.inl hshares)]

/-- A clone is made. -/
theorem clone (ht : Tracks os log s) {g i : Nat} (hi : s.handles[g]? = some i) :
    Tracks (os ++ [some g]) log { s with handles := s.handles ++ [i] } where
  cell_lt := by
    intro j hj
    rcases List.mem_append.mp hj with hj | hj
    · exact ht.cell_lt j hj
    · rw [List.mem_singleton.mp hj]
      exact ht.cell_lt i (List.mem_of_getElem? hi)
  free := ht.free
  length_eq := by simp [ht.length_eq]
  shares := by
    intro a b horigin
    rcases getElem?_concat_eq_some_iff.mp horigin with horigin | ⟨rfl, hg⟩
    · exact ht.shares_concat horigin i
    · cases hg
      have hold := getElem?_concat_eq_some_iff (a := i).mpr (.inl hi)
      rw [← ht.length_eq, List.getElem?_concat_length, hold]
  family := by
    intro a b j ha hb
    -- the clone is of the family of the handle that it comes from
    have hnew : Family (os ++ [some g]) g s.handles.length :=
      .rel _ _ (by rw [ht.length_eq, List.getElem?_concat_length])
    rcases getElem?_concat_eq_some_iff.mp ha with ha | ⟨rfl, rfl⟩
    · rcases getElem?_concat_eq_some_iff.mp hb with hb | ⟨rfl, rfl⟩
      · exact (ht.family ha hb).append _
      · exact ((ht.family ha hi).append _).trans _ _ _ hnew
    · rcases getElem?_concat_eq_some_iff.mp hb with hb | ⟨rfl, -⟩
      · exact (hnew.symm _ _).trans _ _ _ ((ht.family hi hb).append _)
      · exact .refl _
  founds := by
    intro a b ha hb hsame
    have hold : ∀ {k : Nat}, (os ++ [some g])[k]? = some none → os[k]? = some none := by
      intro k hk
      rcases getElem?_concat_eq_some_iff.mp hk with hk | ⟨-, hk⟩
      · exact hk
      · cases hk
    rw [ht.getElem?_handles_concat (hold ha), ht.getElem?_handles_concat (hold hb)] at hsame
    exact ht.founds (hold ha) (hold hb) hsame
  installed_lt := ht.installed_lt_concat _
  holds := by
    intro j c hc
    rw [ht.filter_concat]
    exact ht.holds hc

/-- A store is made. -/
theorem found (ht : Tracks os log s) :
    Tracks (os ++ [none]) log ⟨s.cells ++ [.empty], s.handles ++ [s.cells.length]⟩ where
  cell_lt := by
    intro j hj
    rw [List.length_append, List.length_singleton]
    rcases List.mem_append.mp hj with hj | hj
    · exact Nat.lt_succ_of_lt (ht.cell_lt j hj)
    · rw [List.mem_singleton.mp hj]
      exact Nat.lt_succ_self _
  free := by
    intro c hc
    rcases List.mem_append.mp hc with hc | hc
    · exact ht.free c hc
    · rw [List.mem_singleton.mp hc]
      rfl
  length_eq := by simp [ht.length_eq]
  shares := by
    intro a b horigin
    rcases getElem?_concat_eq_some_iff.mp horigin with horigin | ⟨-, h⟩
    · exact ht.shares_concat horigin _
    · cases h
  family := by
    intro a b j ha hb
    rcases getElem?_concat_eq_some_iff.mp ha with ha | ⟨rfl, rfl⟩
    · rcases getElem?_concat_eq_some_iff.mp hb with hb | ⟨rfl, rfl⟩
      · exact (ht.family ha hb).append _
      · exact absurd ha (ht.getElem?_handles_ne a)
    · rcases getElem?_concat_eq_some_iff.mp hb with hb | ⟨rfl, -⟩
      · exact absurd hb (ht.getElem?_handles_ne b)
      · exact .refl _
  founds := by
    intro a b ha hb hsame
    rcases getElem?_concat_eq_some_iff.mp ha with ha | ⟨rfl, -⟩
    · rw [ht.getElem?_handles_concat ha] at hsame
      rcases getElem?_concat_eq_some_iff.mp hb with hb | ⟨rfl, -⟩
      · rw [ht.getElem?_handles_concat hb] at hsame
        exact ht.founds ha hb hsame
      · rw [← ht.length_eq, List.getElem?_concat_length] at hsame
        exact absurd hsame (ht.getElem?_handles_ne a)
    · rw [← ht.length_eq, List.getElem?_concat_length] at hsame
      rcases getElem?_concat_eq_some_iff.mp hb with hb | ⟨rfl, -⟩
      · rw [ht.getElem?_handles_concat hb] at hsame
        exact absurd hsame.symm (ht.getElem?_handles_ne b)
      · rfl
  installed_lt := ht.installed_lt_concat _
  holds := by
    intro j c hc
    rw [ht.filter_concat]
    rcases getElem?_concat_eq_some_iff.mp hc with hc | ⟨rfl, rfl⟩
    · exact ht.holds hc
    · -- no handle is on the new store
      have hnone : (log.filter fun e => s.handles[e.1]? = some s.cells.length) = [] :=
        List.filter_eq_nil_iff.mpr fun e _ => by simpa using ht.getElem?_handles_ne e.1
      rw [hnone]
      rfl

/-- Handles of one family share a store. -/
theorem handles_eq_of_family (ht : Tracks os log s) {g h : Nat} (hfamily : Family os g h) :
    s.handles[g]? = s.handles[h]? := by
  induction hfamily with
  | rel g h horigin => exact (ht.shares horigin).symm
  | refl g => rfl
  | symm g h _ ih => exact ih.symm
  | trans g h k _ _ ihg ihh => exact ihg.trans ihh

/-- Handles are of one family if and only if they share a store. -/
theorem family_iff (ht : Tracks os log s) {g h : Nat} (hg : g < os.length) :
    Family os g h ↔ s.handles[g]? = s.handles[h]? := by
  refine ⟨ht.handles_eq_of_family, fun hsame => ?_⟩
  rw [← ht.length_eq] at hg
  have hi := List.getElem?_eq_getElem hg
  exact ht.family hi (hsame ▸ hi)

/-- What a handle shows is what was installed last through a handle of its family, and readers that
wait get it at once. -/
theorem snapshot_eq (ht : Tracks os log s) {h : Nat} (hh : h < os.length) :
    s.snapshot h = lastInstalled os log h ∧ s.get? h = some (s.snapshot h) := by
  obtain ⟨i, c, hi, hc, hfree⟩ := ht.exists_cell (ht.length_eq ▸ hh)
  have hcell : s.cell? h = some c := by rw [cell?, hi, Option.bind_some, hc]
  have hsame : ∀ e ∈ log, Family os e.1 h ↔ s.handles[e.1]? = some i := by
    intro e he
    rw [ht.family_iff (ht.length_eq ▸ ht.installed_lt e he), hi]
  constructor
  · rw [snapshot, hcell, Option.bind_some, hfree, lastInstalled,
      List.filter_congr fun e he => decide_eq_decide.mpr (hsame e he)]
    exact ht.holds hc
  · rw [get?, snapshot, hcell]
    simp [hfree]

/-- One operation. -/
theorem step (ht : Tracks os log s) {step : Step}
    (hstep : ∀ g, step.handle? = some g → g < os.length) :
    Tracks (os ++ step.origin?.toList) (log ++ step.installation?.toList) (s.step step).1 := by
  have houtcome := outcome_step ht.toIdle fun g hg => ht.length_eq ▸ hstep g hg
  generalize (s.step step).1 = s' at houtcome
  cases houtcome with
  | keeps horigin hinstallation =>
    rw [horigin, hinstallation, Option.toList_none, Option.toList_none, List.append_nil,
      List.append_nil]
    exact ht
  | puts horigin hinstallation hi =>
    rw [horigin, hinstallation, Option.toList_none, List.append_nil]
    exact ht.put hi _
  | clones horigin hinstallation hi =>
    rw [horigin, hinstallation, Option.toList_none, List.append_nil]
    exact ht.clone hi
  | founds horigin hinstallation =>
    rw [horigin, hinstallation, Option.toList_none, List.append_nil]
    exact ht.found

/-- An operation through a handle of another family, or through none, changes nothing. -/
theorem snapshot_step (ht : Tracks os log s) {step : Step}
    (hstep : ∀ g, step.handle? = some g → g < os.length) {h : Nat} (hh : h < os.length)
    (hother : ∀ g, step.handle? = some g → ¬Family os g h) :
    (s.step step).1.snapshot h = s.snapshot h := by
  have houtcome := outcome_step ht.toIdle fun g hg => ht.length_eq ▸ hstep g hg
  obtain ⟨i, c, hi, hc, -⟩ := ht.exists_cell (ht.length_eq ▸ hh)
  have hconcat : ∀ k, (s.handles ++ [k])[h]? = some i :=
    fun k => getElem?_concat_eq_some_iff.mpr (.inl hi)
  generalize (s.step step).1 = s' at houtcome
  cases houtcome with
  | keeps => rfl
  | @puts g k ts _ hinstallation hk =>
    -- the store that is written is another one, or the handle would be of the family
    have hne : k ≠ i := by
      rintro rfl
      exact hother g (Step.handle?_of_installation? hinstallation) (ht.family hk hi)
    simp only [snapshot, cell?, hi, Option.bind_some, List.getElem?_set_ne hne]
  | clones => simp only [snapshot, cell?, hi, hconcat]
  | founds =>
    have hcells : (s.cells ++ [.empty])[i]? = some c := getElem?_concat_eq_some_iff.mpr (.inl hc)
    simp only [snapshot, cell?, hi, hc, hconcat, hcells, Option.bind_some]

/-- What is put into a store is shown by the whole family. -/
theorem snapshot_set (ht : Tracks os log s) {g h : Nat} (hg : g < os.length)
    (hfamily : Family os g h) (ts : List Table) : (s.set g ts).snapshot h = some ts := by
  obtain ⟨i, c, hi, hc, hfree⟩ := ht.exists_cell (ht.length_eq ▸ hg)
  have hh : s.handles[h]? = some i := (ht.handles_eq_of_family hfamily).symm.trans hi
  have hlt := ht.cell_lt i (List.mem_of_getElem? hi)
  simp [set_eq hi hc hfree, snapshot, cell?, hh, hlt]

/-- A load of either kind installs what the source gives, and tells so; if the source gives nothing
it tells that, and changes nothing. -/
theorem step_load (ht : Tracks os log s) {g : Nat} (hg : g < os.length) {p : Provider}
    {step : Step} (hstep : step = .load g p ∨ step = .spawnLoad g p) :
    (∀ ts, p.Gives ts → s.step step = (s.set g ts, some true)) ∧
      ((¬∃ ts, p.Gives ts) → s.step step = (s, some false)) := by
  have hload : s.step step = ((s.load g p).1, some (s.load g p).2) := by
    rcases hstep with rfl | rfl
    · rfl
    · simp only [Stores.step, spawnLoad_eq_load ht.toIdle (ht.length_eq ▸ hg)]
  rw [hload]
  constructor
  · intro ts hp
    rw [load_ok (Provider.load_eq_ok_iff.mpr hp)]
  · intro hnot
    cases hp : p.load with
    | ok ts => exact absurd ⟨ts, Provider.load_eq_ok_iff.mp hp⟩ hnot
    | error e => rw [load_error hp]

end Tracks

/-! ### Runs -/

/-- The last of several operations comes after the others. -/
theorem run_concat (s : Stores) (steps : List Step) (step : Step) :
    (s.run (steps ++ [step])).1 = ((s.run steps).1.step step).1 := by
  induction steps generalizing s with
  | nil => rfl
  | cons e es ih => exact ih (s.step e).1

/-- After all operations the stores are what the history says. -/
theorem tracks_run {steps : List Step} (hsteps : Proper steps) :
    Tracks (origins steps) (installations steps) (initial.run steps).1 := by
  induction hsteps with
  | nil => exact .initial
  | @concat steps step _ hstep ih =>
    rw [run_concat, origins_concat, installations_concat]
    exact ih.step hstep

/-- What a handle shows does not go away, whatever follows. -/
theorem isSome_snapshot_append {steps more : List Step} (hsteps : Proper steps)
    (hmore : Proper (steps ++ more)) {h : Nat} (hh : h < (origins steps).length)
    (hsome : ((initial.run steps).1.snapshot h).isSome) :
    ((initial.run (steps ++ more)).1.snapshot h).isSome := by
  have horigins : origins (steps ++ more) = origins steps ++ more.filterMap Step.origin? := by
    rw [origins, List.filterMap_append]
    rfl
  have hlt : h < (origins (steps ++ more)).length := by
    rw [horigins, List.length_append]
    omega
  rw [((tracks_run hsteps).snapshot_eq hh).1, isSome_lastInstalled_iff] at hsome
  rw [((tracks_run hmore).snapshot_eq hlt).1, isSome_lastInstalled_iff]
  obtain ⟨e, he, hfamily⟩ := hsome
  refine ⟨e, ?_, horigins ▸ hfamily.append _⟩
  rw [installations, List.filterMap_append]
  exact List.mem_append_left _ he

/-- **Every handle shows what was installed last through its family.**  After any operations that
use only handles that exist:

* what a handle shows at once, and to readers that wait, are the tables that were installed last
  through a handle of its family, and nothing if there were none;
* a load, awaited or in a task of its own, tells whether the source gives any tables, and if so they
  are what the whole family shows; if not, nothing at all is changed;
* a handle that shows tables never shows nothing again;
* an operation through a handle of another family changes nothing for a handle;
* handles that were made with stores of their own are of different families. -/
theorem snapshot_eq_lastInstalled {steps : List Step} (hsteps : Proper steps) :
    let s := (initial.run steps).1
    let os := origins steps
    (s.handles.length = os.length ∧ ∀ h < os.length,
      s.snapshot h = lastInstalled os (installations steps) h ∧
        s.get? h = some (s.snapshot h)) ∧
    (∀ g < os.length, ∀ p step, step = .load g p ∨ step = .spawnLoad g p →
      (∀ ts, p.Gives ts → (s.step step).2 = some true ∧
        ∀ h, Family os g h → (s.step step).1.snapshot h = some ts) ∧
      ((¬∃ ts, p.Gives ts) → s.step step = (s, some false))) ∧
    (∀ more, Proper (steps ++ more) → ∀ h < os.length, (s.snapshot h).isSome →
      ((initial.run (steps ++ more)).1.snapshot h).isSome) ∧
    (∀ step, (∀ g, step.handle? = some g → g < os.length) → ∀ h < os.length,
      (∀ g, step.handle? = some g → ¬Family os g h) →
        (s.step step).1.snapshot h = s.snapshot h) ∧
    (∀ g h, os[g]? = some none → os[h]? = some none → Family os g h → g = h) := by
  intro s os
  have ht : Tracks os (installations steps) s := tracks_run hsteps
  refine ⟨⟨ht.length_eq, fun h hh => ht.snapshot_eq hh⟩, ?_, ?_, ?_, ?_⟩
  · intro g hg p step hstep
    obtain ⟨hgives, hnot⟩ := ht.step_load hg hstep
    refine ⟨fun ts hp => ?_, hnot⟩
    rw [hgives ts hp]
    exact ⟨rfl, fun h hfamily => ht.snapshot_set hg hfamily ts⟩
  · intro more hmore h hh hsome
    exact isSome_snapshot_append hsteps hmore hh hsome
  · intro step hstep h hh hother
    exact ht.snapshot_step hstep hh hother
  · intro g h hg hh hfamily
    exact ht.founds hg hh (ht.handles_eq_of_family hfamily)

/-- What is put into a store through a clone is shown by the first handle as well, also after a load
that fails, and not by a store that was made anew; and what that one loads from a file is not shown
by the others. -/
theorem snapshot_eq_lastInstalled_two_stores :
    let users : Table := ⟨"users", []⟩
    let posts : Table := ⟨"posts", []⟩
    let steps : List Step := [.clone 0, .fresh, .set 1 [users]]
    let s := (initial.run steps).1
    let file : Provider := .file (some "[[\"posts\"]]")
    let loading : Step := .spawnLoad 2 file
    let failing : Step := .load 0 (.file none)
    Proper (steps ++ [failing]) ∧ ¬Family (origins steps) 0 2 ∧
      lastInstalled (origins steps) (installations steps) 0 = some [users] ∧
      s.snapshot 0 = some [users] ∧ s.get? 0 = some (some [users]) ∧ s.snapshot 2 = none ∧
      file.Gives [posts] ∧ (s.step loading).2 = some true ∧
      (s.step loading).1.snapshot 2 = some [posts] ∧
      (s.step loading).1.snapshot 0 = some [users] ∧
      s.step failing = (s, some false) ∧
      ((initial.run (steps ++ [failing])).1.snapshot 0).isSome := by
  intro users posts steps s file loading failing
  have hclone : Proper ([] ++ [.clone 0]) := .concat .nil (by decide)
  have hfresh : Proper ([.clone 0] ++ [.fresh]) := .concat hclone (by decide)
  have hset : Proper ([.clone 0, .fresh] ++ [.set 1 [users]]) := .concat hfresh (by decide)
  have hsteps : Proper steps := hset
  have hmore : Proper (steps ++ [failing]) := .concat hsteps (by decide)
  have hgives : file.Gives [posts] := by
    have hload : file.load.toOption = some [posts] := by decide +kernel
    cases hp : file.load with
    | ok ts =>
      rw [hp] at hload
      cases hload
      exact Provider.load_eq_ok_iff.mp hp
    | error e =>
      rw [hp] at hload
      cases hload
  have hnot : ¬∃ ts, (Provider.file none).Gives ts := by
    rintro ⟨ts, h⟩
    cases h
  obtain ⟨⟨-, hshows⟩, hloads, hstays, hother, hdiffers⟩ := snapshot_eq_lastInstalled hsteps
  have hfamily : ¬Family (origins steps) 0 2 :=
    fun h => absurd (hdiffers 0 2 rfl rfl h) (by decide)
  obtain ⟨hlast, hget⟩ := hshows 0 (by decide)
  obtain ⟨htells, hinstalled⟩ := (hloads 2 (by decide) file loading (.inr rfl)).1 [posts] hgives
  have hkept : (s.step loading).1.snapshot 0 = s.snapshot 0 := by
    refine hother loading (by decide) 0 (by decide) fun g hg => ?_
    cases hg
    exact fun h => hfamily (h.symm _ _)
  have hfailed := (hloads 0 (by decide) (.file none) failing (.inl rfl)).2 hnot
  have hsnapshot : s.snapshot 0 = some [users] := rfl
  refine ⟨hmore, hfamily, hlast.symm.trans hsnapshot, hsnapshot,
    hget.trans (congrArg some hsnapshot), rfl, hgives, htells, hinstalled 2 (.refl 2),
    hkept.trans hsnapshot, hfailed, ?_⟩
  exact hstays [failing] hmore 0 (by decide) rfl

end Stores

end SqlAnalysis.Schema
