import Mathlib.Data.List.Induction
import SqlAnalysis.Proofs.Word.Locate
import SqlAnalysis.Session

/-!
# The cache is transparent

Analyzers keep parses, share them with their clones, and go on when the front end has a fault.
None of this shows in the answers.  Over any sequence of events, a request asks the front end
once if it needs a parse that is not kept, and its answer is the one of an analyzer that starts
over with a front end that has no faults; unless its own call fails, which leaves an answer
without what the parse would add.

The front end is taken to give a fixed answer to each query, which may be a fault too, except at
arbitrary call numbers.

## Main definitions

* `Request.NeedsParse` — when a request needs the parse of its query.
* `Request.answer` — the answer to a request, given the parse.
* `Request.degraded` — the answer that is left without one.
* `Session.NeedsCall` — when a request has to ask the front end.
* `Session.Outcome` — everything that a request can do to a session.
* `Analyzers.Sound` — what is kept are answers of the front end.
* `Analyzers.Obtained` — the parse of a query was obtained in the course of some events.

## Main results

* `Session.outcome_step` — every request has one of the outcomes.
* `Analyzers.sound_run` — what is kept stays sound over all events.
* `Analyzers.lookup_eq_some_iff` — what is kept is exactly what was obtained.
* `Analyzers.transparent_run` — **the cache is transparent, and faults are isolated.**
-/

namespace SqlAnalysis

/-! ### Requests and their answers -/

namespace Request

/-- A request needs the parse of its query: always, when the parse is asked for; to find a
problem, when the query is not blank; for a word, when one touches the offset and there is a
schema; for a completion list, when there is a schema. -/
def NeedsParse : Request → Prop
  | .parse _ => True
  | .analyze query _ | .diagnose query _ _ => isBlankQuery query = false
  | .hover query offset schema =>
    schema.isSome ∧ ∃ w ∈ words query, w.start ≤ offset ∧ offset ≤ w.stop
  | .complete _ schema => schema.isSome

instance : DecidablePred NeedsParse
  | .parse _ => inferInstanceAs (Decidable True)
  | .analyze query _ | .diagnose query _ _ =>
    inferInstanceAs (Decidable (isBlankQuery query = false))
  | .hover query offset schema => inferInstanceAs (Decidable
      (schema.isSome ∧ ∃ w ∈ words query, w.start ≤ offset ∧ offset ≤ w.stop))
  | .complete _ schema => inferInstanceAs (Decidable (schema.isSome = true))

/-- The answer to a request, given the parse of its query. -/
def answer (parse : Option Parse) : Request → Response
  | .analyze query schema => .problem (SqlAnalysis.analyze query schema parse)
  | .parse _ => .parse parse
  | .diagnose query schema database =>
    .diagnostics (SqlAnalysis.diagnose query schema database parse)
  | .hover query offset schema => .info (quickInfo query offset schema parse)
  | .complete _ schema => .entries (completions schema parse)

/-- The answer that is left of a request when the parse it needs fails: no problem and no
diagnostics, the word with its topic, and the tables of the schema with the keywords. -/
def degraded : Request → Response
  | .analyze _ _ => .problem none
  | .parse _ => .parse none
  | .diagnose _ _ _ => .diagnostics []
  | .hover query offset _ =>
    .info ((locate offset query).map fun w => ⟨w, topic? w.text, none, none⟩)
  | .complete _ schema =>
    .entries (((schema.map Schema.tableNames).getD []).map .table ++ keywords.map .keyword)

/-- Without the parse that it needs, the answer to a request is degraded. -/
theorem answer_none {r : Request} (h : r.NeedsParse) : r.answer none = r.degraded := by
  cases r with
  | analyze query schema | diagnose query schema database =>
    have hquery : isBlankQuery query = false := h
    simp [answer, degraded, SqlAnalysis.diagnose, SqlAnalysis.analyze, hquery, analyzeParse]
  | parse query => rfl
  | hover query offset schema =>
    have hinfo : wordInfo schema none = fun w => ⟨w, topic? w.text, none, none⟩ := by
      funext w
      cases schema <;> rfl
    simp only [answer, degraded, quickInfo, hinfo]
  | complete query schema => simp [answer, degraded, completions]

end Request

/-! ### One request -/

/-- What is kept are answers of the front end. -/
def Cache.Sound (frontend : Frontend) (cache : Cache) : Prop :=
  ∀ q p, (q, p) ∈ cache → frontend q = .ok p

namespace Session

/-- A request that needs no parse leaves the session as it is. -/
theorem step_of_not_needsParse {r : Request} (h : ¬r.NeedsParse) (F : CountedFrontend)
    (s : Session) : s.step F r = (s, r.answer none) := by
  cases r with
  | analyze query schema | diagnose query schema database =>
    have hquery : isBlankQuery query = true := by simpa [Request.NeedsParse] using h
    simp [step, problem, diagnostics, Request.answer, analyze, diagnose, hquery]
  | parse query => exact absurd trivial h
  | hover query offset schema =>
    simp only [step, info, Request.answer, quickInfo]
    cases hword : locate offset query with
    | none => rfl
    | some w =>
      cases schema with
      | none => rfl
      | some catalog =>
        have htouch : (locate offset query).isSome := by rw [hword]; rfl
        exact absurd ⟨rfl, isSome_locate_iff.mp htouch⟩ h
  | complete query schema =>
    cases schema with
    | none => rfl
    | some catalog => exact absurd rfl h

/-- A request that needs a parse goes through the cache once. -/
theorem step_of_needsParse {r : Request} (h : r.NeedsParse) (F : CountedFrontend)
    (s : Session) :
    s.step F r = ((s.parse F r.query).1, r.answer (s.parse F r.query).2) := by
  cases r with
  | analyze query schema | diagnose query schema database =>
    have hquery : isBlankQuery query = false := h
    simp [step, problem, diagnostics, Request.answer, Request.query, analyze, diagnose, hquery]
  | parse query => rfl
  | hover query offset schema =>
    obtain ⟨hschema, htouch⟩ := h
    obtain ⟨w, hword⟩ := Option.isSome_iff_exists.mp (isSome_locate_iff.mpr htouch)
    obtain ⟨catalog, rfl⟩ := Option.isSome_iff_exists.mp hschema
    simp [step, info, Request.answer, Request.query, quickInfo, hword]
  | complete query schema =>
    obtain ⟨catalog, rfl⟩ := Option.isSome_iff_exists.mp h
    rfl

/-- A request has to ask the front end: it needs a parse that is not kept. -/
def NeedsCall (s : Session) (r : Request) : Prop :=
  r.NeedsParse ∧ s.cached? r.query = none

instance (s : Session) : DecidablePred s.NeedsCall :=
  fun r => inferInstanceAs (Decidable (r.NeedsParse ∧ s.cached? r.query = none))

/-- Everything that a request can do to a session, with its answer. -/
inductive Outcome (faults : Nat → Option Fault) (frontend : Frontend) (s : Session)
    (r : Request) : Session → Response → Prop
  /-- No parse is needed. -/
  | skipped (hneeds : ¬r.NeedsParse) : Outcome faults frontend s r s (r.answer none)
  /-- The parse is kept already. -/
  | kept {p : Parse} (hneeds : r.NeedsParse) (hcached : s.cached? r.query = some p) :
    Outcome faults frontend s r s (r.answer (some p))
  /-- The call of the front end fails. -/
  | failed {fault : Fault} (hneeds : r.NeedsParse) (hcached : s.cached? r.query = none)
    (hfault : faults (s.calls + 1) = some fault) :
    Outcome faults frontend s r ⟨s.cache, s.calls + 1⟩ (r.answer none)
  /-- The front end has no parse of the query. -/
  | refused {fault : Fault} (hneeds : r.NeedsParse) (hcached : s.cached? r.query = none)
    (hfault : faults (s.calls + 1) = none) (hanswer : frontend r.query = .error fault) :
    Outcome faults frontend s r ⟨s.cache, s.calls + 1⟩ (r.answer none)
  /-- The front end gives the parse, which is kept from then on. -/
  | obtained {p : Parse} (hneeds : r.NeedsParse) (hcached : s.cached? r.query = none)
    (hfault : faults (s.calls + 1) = none) (hanswer : frontend r.query = .ok p) :
    Outcome faults frontend s r ⟨(r.query, p) :: s.cache, s.calls + 1⟩ (r.answer (some p))

/-- Every request has one of the outcomes. -/
theorem outcome_step (faults : Nat → Option Fault) (frontend : Frontend) (s : Session)
    (r : Request) :
    Outcome faults frontend s r (s.step (interrupted faults frontend) r).1
      (s.step (interrupted faults frontend) r).2 := by
  by_cases hneeds : r.NeedsParse
  · rw [step_of_needsParse hneeds]
    unfold parse
    cases hcached : s.cached? r.query with
    | some p => exact .kept hneeds hcached
    | none =>
      cases hfault : faults (s.calls + 1) with
      | some fault =>
        simp only [interrupted, hfault]
        exact .failed hneeds hcached hfault
      | none =>
        cases hanswer : frontend r.query with
        | error fault =>
          simp only [interrupted, hfault, hanswer]
          exact .refused hneeds hcached hfault hanswer
        | ok p =>
          simp only [interrupted, hfault, hanswer]
          exact .obtained hneeds hcached hfault hanswer
  · rw [step_of_not_needsParse hneeds]
    exact .skipped hneeds

/-- The answer of an analyzer that has not been asked anything, from a front end without
faults. -/
theorem step_initial (frontend : Frontend) (r : Request) :
    (initial.step (fun _ => frontend) r).2
      = r.answer (if r.NeedsParse then (frontend r.query).toOption else none) := by
  by_cases hneeds : r.NeedsParse
  · rw [step_of_needsParse hneeds, if_pos hneeds]
    cases hanswer : frontend r.query <;> simp [parse, cached?, initial, hanswer, Except.toOption]
  · rw [step_of_not_needsParse hneeds, if_neg hneeds]

/-- What a sound cache keeps is an answer of the front end. -/
theorem answer_of_cached? {frontend : Frontend} {s : Session}
    (hs : Cache.Sound frontend s.cache) {q : String} {p : Parse} (h : s.cached? q = some p) :
    frontend q = .ok p := by
  obtain ⟨front, back, hcache, -⟩ := List.lookup_eq_some_iff.mp h
  exact hs q p (by rw [hcache]; exact List.mem_append_right front List.mem_cons_self)

namespace Outcome

variable {faults : Nat → Option Fault} {frontend : Frontend} {s s' : Session} {r : Request}
  {a : Response}

/-- A request keeps the cache sound. -/
theorem sound (h : Outcome faults frontend s r s' a) (hs : Cache.Sound frontend s.cache) :
    Cache.Sound frontend s'.cache := by
  cases h with
  | skipped | kept | failed | refused => exact hs
  | obtained _ _ _ hanswer =>
    intro q p hmem
    rcases List.mem_cons.mp hmem with hpair | hmem
    · cases hpair
      exact hanswer
    · exact hs q p hmem

/-- The front end is asked once if a parse is needed and not kept, and not at all otherwise. -/
theorem calls_eq (h : Outcome faults frontend s r s' a) :
    s'.calls = s.calls + if s.NeedsCall r then 1 else 0 := by
  cases h with
  | skipped hneeds => simp [NeedsCall, hneeds]
  | kept hneeds hcached => simp [NeedsCall, hcached]
  | failed hneeds hcached | refused hneeds hcached | obtained hneeds hcached =>
    simp [NeedsCall, hneeds, hcached]

/-- What is kept behind a request was kept before, or is what it asked the front end for. -/
theorem cached?_eq_some_iff (h : Outcome faults frontend s r s' a)
    (hs : Cache.Sound frontend s.cache) {q : String} {p : Parse} :
    s'.cached? q = some p ↔ s.cached? q = some p ∨
      frontend q = .ok p ∧ r.NeedsParse ∧ r.query = q ∧ faults (s.calls + 1) = none := by
  cases h with
  | skipped hneeds => simp [hneeds]
  | kept hneeds hcached =>
    refine ⟨Or.inl, ?_⟩
    rintro (hq | ⟨hanswer, -, rfl, -⟩)
    · exact hq
    · have hkept := answer_of_cached? hs hcached
      rw [hcached]
      rw [hkept] at hanswer
      exact congrArg some (Except.ok.inj hanswer)
  | failed hneeds hcached hfault => simp [hfault, cached?]
  | refused hneeds hcached hfault hanswer =>
    refine ⟨Or.inl, ?_⟩
    rintro (hq | ⟨hok, -, rfl, -⟩)
    · exact hq
    · rw [hanswer] at hok
      cases hok
  | obtained hneeds hcached hfault hanswer =>
    by_cases hq : q = r.query
    · subst hq
      rw [hcached]
      simp [cached?, hanswer, hneeds, hfault]
    · have hne : (q == r.query) = false := by simpa using hq
      simp [cached?, List.lookup_cons, hne, Ne.symm hq]

/-- The answer is the one of an analyzer that starts over with a front end without faults,
unless its own call fails. -/
theorem answer_eq (h : Outcome faults frontend s r s' a) (hs : Cache.Sound frontend s.cache) :
    a = if s.NeedsCall r ∧ (faults (s.calls + 1)).isSome then r.degraded
      else (initial.step (fun _ => frontend) r).2 := by
  rw [step_initial]
  cases h with
  | skipped hneeds => simp [NeedsCall, hneeds]
  | kept hneeds hcached =>
    simp [NeedsCall, hneeds, hcached, answer_of_cached? hs hcached, Except.toOption]
  | failed hneeds hcached hfault =>
    simp [NeedsCall, hneeds, hcached, hfault, Request.answer_none hneeds]
  | refused hneeds hcached hfault hanswer | obtained hneeds hcached hfault hanswer =>
    simp [hneeds, hfault, hanswer, Except.toOption]

end Outcome

end Session

/-! ### One event -/

namespace Analyzers

variable {faults : Nat → Option Fault} {frontend : Frontend}

/-- Every analyzer has a cache, and what is kept are answers of the front end. -/
structure Sound (frontend : Frontend) (d : Analyzers) : Prop where
  /-- The cache of an analyzer exists. -/
  cell_lt : ∀ cell ∈ d.handles, cell < d.caches.length
  /-- The caches are sound. -/
  cache : ∀ cache ∈ d.caches, Cache.Sound frontend cache

/-- An analyzer of sound analyzers goes on with the cache of its cell. -/
theorem Sound.session?_eq {d : Analyzers} (hd : d.Sound frontend) {handle cell : Nat}
    (hcell : d.handles[handle]? = some cell) :
    ∃ cache, d.caches[cell]? = some cache ∧ d.session? handle = some ⟨cache, d.calls⟩ := by
  have hlt := hd.cell_lt cell (List.mem_of_getElem? hcell)
  refine ⟨d.caches[cell], List.getElem?_eq_getElem hlt, ?_⟩
  simp [session?, hcell, List.getElem?_eq_getElem hlt]

/-- The answer of an analyzer is the one of its session, and only its own cache changes. -/
theorem ask_eq {d : Analyzers} {handle cell : Nat} {s : Session} (F : CountedFrontend)
    (r : Request) (hcell : d.handles[handle]? = some cell) (hs : d.session? handle = some s) :
    d.ask F handle r
      = (⟨d.caches.set cell (s.step F r).1.cache, d.handles, (s.step F r).1.calls⟩,
          some (s.step F r).2) := by
  simp [ask, hcell, hs]

/-- Without an analyzer there is no answer. -/
theorem ask_eq_none {d : Analyzers} {handle : Nat} (F : CountedFrontend) (r : Request)
    (hcell : d.handles[handle]? = none) : d.ask F handle r = (d, none) := by
  simp [ask, hcell]

/-- One more analyzer with a cache that exists. -/
theorem Sound.addHandle {d : Analyzers} (hd : d.Sound frontend) {cell : Nat}
    (hcell : cell < d.caches.length) :
    Sound frontend { d with handles := d.handles ++ [cell] } where
  cell_lt := by
    intro c hc
    rcases List.mem_append.mp hc with hc | hc
    · exact hd.cell_lt c hc
    · rw [List.mem_singleton.mp hc]
      exact hcell
  cache := hd.cache

/-- One more cache, which keeps nothing. -/
theorem Sound.addCache {d : Analyzers} (hd : d.Sound frontend) :
    Sound frontend { d with caches := d.caches ++ [[]] } where
  cell_lt := by
    intro c hc
    rw [List.length_append, List.length_singleton]
    exact Nat.lt_succ_of_lt (hd.cell_lt c hc)
  cache := by
    intro c hc
    rcases List.mem_append.mp hc with hc | hc
    · exact hd.cache c hc
    · rw [List.mem_singleton.mp hc]
      intro q p hmem
      simp at hmem

/-- The cache of one analyzer replaced by a sound one. -/
theorem Sound.setCache {d : Analyzers} (hd : d.Sound frontend) (cell calls : Nat)
    {cache : Cache} (hcache : Cache.Sound frontend cache) :
    Sound frontend ⟨d.caches.set cell cache, d.handles, calls⟩ where
  cell_lt := by
    intro c hc
    rw [List.length_set]
    exact hd.cell_lt c hc
  cache := by
    intro c hc
    rcases List.mem_or_eq_of_mem_set hc with hc | rfl
    · exact hd.cache c hc
    · exact hcache

/-- An event keeps analyzers sound. -/
theorem Sound.step {d : Analyzers} (hd : d.Sound frontend) (e : Event) :
    (d.step (interrupted faults frontend) e).1.Sound frontend := by
  cases e with
  | ask handle r =>
    cases hcell : d.handles[handle]? with
    | none => simpa [Analyzers.step, ask_eq_none _ r hcell] using hd
    | some cell =>
      obtain ⟨cache, hcache, hs⟩ := hd.session?_eq hcell
      have hsound := hd.cache cache (List.mem_of_getElem? hcache)
      have hnext := (Session.outcome_step faults frontend ⟨cache, d.calls⟩ r).sound hsound
      simp only [Analyzers.step, ask_eq _ r hcell hs]
      exact hd.setCache cell _ hnext
  | clone handle =>
    cases hcell : d.handles[handle]? with
    | none => simpa [Analyzers.step, clone, hcell] using hd
    | some cell =>
      simp only [Analyzers.step, clone, hcell]
      exact hd.addHandle (hd.cell_lt cell (List.mem_of_getElem? hcell))
  | fresh =>
    simp only [Analyzers.step, fresh]
    exact hd.addCache.addHandle (by simp)

/-! ### All events -/

/-- The last of several events comes after the others. -/
theorem run_concat (F : CountedFrontend) (d : Analyzers) (events : List Event) (e : Event) :
    d.run F (events ++ [e])
      = (((d.run F events).1.step F e).1,
          (d.run F events).2 ++ [((d.run F events).1.step F e).2]) := by
  induction events generalizing d with
  | nil => rfl
  | cons e' es ih => simp [run, ih]

theorem sound_initial (frontend : Frontend) : initial.Sound frontend where
  cell_lt := by decide
  cache := by
    intro cache hcache q p hmem
    rw [List.mem_singleton.mp hcache] at hmem
    simp at hmem

/-- What is kept stays sound over all events. -/
theorem sound_run (faults : Nat → Option Fault) (frontend : Frontend) (events : List Event) :
    (initial.run (interrupted faults frontend) events).1.Sound frontend := by
  induction events using List.reverseRecOn with
  | nil => exact sound_initial frontend
  | append_singleton es e ih =>
    rw [run_concat]
    exact ih.step e

/-- The parse of a query was obtained for a cache, the one of the cell `cell`: one of the
analyzers that use it was asked a request that needs the parse, at a time when the next call of
the front end had no fault of its own. -/
def Obtained (faults : Nat → Option Fault) (frontend : Frontend) (events : List Event)
    (cell : Nat) (query : String) : Prop :=
  ∃ before handle r after, events = before ++ Event.ask handle r :: after ∧
    (initial.run (interrupted faults frontend) before).1.handles[handle]? = some cell ∧
    r.NeedsParse ∧ r.query = query ∧
    faults ((initial.run (interrupted faults frontend) before).1.calls + 1) = none

/-- A parse was obtained by the last event, or before it. -/
theorem obtained_concat {events : List Event} {e : Event} {cell : Nat} {query : String} :
    Obtained faults frontend (events ++ [e]) cell query ↔
      Obtained faults frontend events cell query ∨
        ∃ handle r, e = .ask handle r ∧
          (initial.run (interrupted faults frontend) events).1.handles[handle]? = some cell ∧
          r.NeedsParse ∧ r.query = query ∧
          faults ((initial.run (interrupted faults frontend) events).1.calls + 1) = none := by
  constructor
  · rintro ⟨before, handle, r, after, hevents, h⟩
    rcases List.eq_nil_or_concat after with rfl | ⟨after, x, rfl⟩
    · obtain ⟨rfl, hlast⟩ := List.append_inj' hevents rfl
      exact Or.inr ⟨handle, r, List.singleton_inj.mp hlast, h⟩
    · have hsplit : events ++ [e] = (before ++ Event.ask handle r :: after) ++ [x] := by
        rw [hevents]
        simp
      obtain ⟨rfl, -⟩ := List.append_inj' hsplit rfl
      exact Or.inl ⟨before, handle, r, after, rfl, h⟩
  · rintro (⟨before, handle, r, after, rfl, h⟩ | ⟨handle, r, rfl, h⟩)
    · exact ⟨before, handle, r, after ++ [e], by simp, h⟩
    · exact ⟨events, handle, r, [], rfl, h⟩

/-- No event takes a cache away. -/
theorem length_caches_le_step (F : CountedFrontend) (d : Analyzers) (e : Event) :
    d.caches.length ≤ (d.step F e).1.caches.length := by
  cases e with
  | ask handle r =>
    simp only [step, ask]
    split <;> simp
  | clone handle =>
    simp only [step, clone]
    split <;> exact Nat.le_refl _
  | fresh => simp [step, fresh]

/-- Parses are obtained for caches that exist. -/
theorem lt_of_obtained {events : List Event} {cell : Nat} {query : String}
    (h : Obtained faults frontend events cell query) :
    cell < (initial.run (interrupted faults frontend) events).1.caches.length := by
  induction events using List.reverseRecOn with
  | nil =>
    obtain ⟨before, handle, r, after, hevents, -⟩ := h
    simp at hevents
  | append_singleton es e ih =>
    rw [run_concat]
    refine Nat.lt_of_lt_of_le ?_ (length_caches_le_step _ _ e)
    rcases obtained_concat.mp h with h | ⟨handle, r, -, hcell, -⟩
    · exact ih h
    · exact (sound_run faults frontend es).cell_lt cell (List.mem_of_getElem? hcell)

/-- A cache keeps exactly the parses that were obtained for it. -/
theorem lookup_eq_some_iff (events : List Event) {cell : Nat} {cache : Cache}
    (hcache : (initial.run (interrupted faults frontend) events).1.caches[cell]? = some cache)
    (q : String) (p : Parse) :
    cache.lookup q = some p ↔
      frontend q = .ok p ∧ Obtained faults frontend events cell q := by
  induction events using List.reverseRecOn generalizing cell cache with
  | nil =>
    have hempty : cache = [] := by
      have hmem : cache ∈ [([] : Cache)] := List.mem_of_getElem? hcache
      exact List.mem_singleton.mp hmem
    rw [hempty]
    simp [Obtained]
  | append_singleton es e ih =>
    have hsound := sound_run faults frontend es
    rw [run_concat] at hcache
    rw [obtained_concat]
    generalize hd : (initial.run (interrupted faults frontend) es).1 = d at *
    cases e with
    | ask handle r =>
      cases hcell : d.handles[handle]? with
      | none =>
        simp only [step, ask_eq_none _ r hcell] at hcache
        rw [ih hcache]
        simp [hcell]
      | some own =>
        obtain ⟨before, hbefore, hs⟩ := hsound.session?_eq hcell
        simp only [step, ask_eq _ r hcell hs] at hcache
        by_cases hown : own = cell
        · subst hown
          have hlt := hsound.cell_lt own (List.mem_of_getElem? hcell)
          rw [List.getElem?_set_self hlt] at hcache
          cases hcache
          have hout := Session.outcome_step faults frontend ⟨before, d.calls⟩ r
          refine (hout.cached?_eq_some_iff
            (hsound.cache before (List.mem_of_getElem? hbefore))).trans ?_
          rw [Session.cached?, ih hbefore, ← and_or_left]
          simp [hcell]
        · -- the request is about another cache
          rw [List.getElem?_set_ne hown] at hcache
          rw [ih hcache]
          simp [hcell, hown]
    | clone handle =>
      have hcaches : (d.clone handle).1.caches = d.caches := by
        unfold clone
        split <;> rfl
      simp only [step, hcaches] at hcache
      rw [ih hcache]
      simp
    | fresh =>
      simp only [step, fresh] at hcache
      rcases Nat.lt_trichotomy cell d.caches.length with hlt | rfl | hlt
      · rw [List.getElem?_append_left hlt] at hcache
        rw [ih hcache]
        simp
      · -- nothing is kept by a new analyzer, and nothing was obtained for it before
        have hempty : cache = [] := by simpa using hcache.symm
        have hnew : ¬Obtained faults frontend es d.caches.length q := by
          intro h
          have := lt_of_obtained h
          rw [hd] at this
          exact Nat.lt_irrefl _ this
        rw [hempty]
        simp [hnew]
      · have hnone : cell - d.caches.length ≠ 0 := by omega
        simp [List.getElem?_append_right (Nat.le_of_lt hlt), hnone] at hcache

/-- **The cache is transparent, and faults are isolated.**  After any events, what is kept are
answers of the front end, and an analyzer keeps exactly the parses that were obtained for it or
for one it shares a cache with.  The next request asks the front end once if it needs a parse
that is not kept, and not at all otherwise.  Its answer is the one of an analyzer that has not
been asked anything, with a front end without faults, unless its own call has a fault: then it
is the degraded answer. -/
theorem transparent_run (faults : Nat → Option Fault) (frontend : Frontend)
    (events : List Event) :
    let F := interrupted faults frontend
    let d := (initial.run F events).1
    (∀ cache ∈ d.caches, ∀ q p, (q, p) ∈ cache → frontend q = .ok p) ∧
      ∀ handle cell, d.handles[handle]? = some cell → ∃ s, d.session? handle = some s ∧
        (∀ q p, s.cached? q = some p ↔
          frontend q = .ok p ∧ Obtained faults frontend events cell q) ∧
        ∀ r, (initial.run F (events ++ [.ask handle r])).1.calls
            = d.calls + (if s.NeedsCall r then 1 else 0) ∧
          (initial.run F (events ++ [.ask handle r])).2
            = (initial.run F events).2 ++
              [some (if s.NeedsCall r ∧ (faults (d.calls + 1)).isSome then r.degraded
                else (Session.initial.step (fun _ => frontend) r).2)] := by
  intro F d
  have hsound : d.Sound frontend := sound_run faults frontend events
  refine ⟨hsound.cache, fun handle cell hcell => ?_⟩
  obtain ⟨cache, hcache, hs⟩ := hsound.session?_eq hcell
  refine ⟨_, hs, fun q p => lookup_eq_some_iff events hcache q p, fun r => ?_⟩
  have hout := Session.outcome_step faults frontend ⟨cache, d.calls⟩ r
  have hstep : d.step F (.ask handle r) = _ := ask_eq F r hcell hs
  rw [run_concat, hstep]
  refine ⟨hout.calls_eq, ?_⟩
  rw [hout.answer_eq (hsound.cache cache (List.mem_of_getElem? hcache))]

/-- The first call has a fault, so a clone has to ask for the same query again, and gets the
parse. -/
theorem transparent_clone_after_fault :
    let faults : Nat → Option Fault := fun n => if n = 1 then some .recursionLimit else none
    let frontend : Frontend := fun _ => .ok (.parsed [])
    let events : List Event := [.ask 0 (.parse "SELECT 1"), .clone 0]
    let last : Event := .ask 1 (.parse "SELECT 1")
    (initial.run (interrupted faults frontend) events).1.handles[1]? = some 0 ∧
      (initial.run (interrupted faults frontend) (events ++ [last])).1.calls = 2 ∧
      (initial.run (interrupted faults frontend) (events ++ [last])).2
        = [some (.parse none), none, some (.parse (some (.parsed [])))] := by
  intro faults frontend events last
  have hcell : (initial.run (interrupted faults frontend) events).1.handles[1]? = some 0 := rfl
  obtain ⟨s, hs, -, hlast⟩ := (transparent_run faults frontend events).2 1 0 hcell
  cases hs
  exact ⟨hcell, hlast (.parse "SELECT 1")⟩

end Analyzers

end SqlAnalysis
