import SqlAnalysis.Proofs.Sql.Columns

/-!
# The tables of a statement

The name of a table is met in up to three ways: as a table to read from, as a name that is used,
and as the target of an insertion.  A table to read from always counts, every time it is met; any
other name counts once, and only if no table to read from is called so.  Names that the statement
gives to queries of its own are no tables, whether they are given before or behind their use.

The names are added to a list that grows while it is searched, so the invariant of the loop says
which names the list has by now: those met so far that were neither there at the start nor names
of queries, each once.

## Main definitions

* `label` — the name and the alias of a table.
* `IsRelation` — a name is used as the name of a table.
* `keptLabels` — the tables to read from.
* `Adds` — the invariant of the loop that adds names.

## Main results

* `exists_adds_foldl` — the loop adds each name that is met and not accounted for, once.
* `filter_mergeSort` — sorting by name keeps the order of elements with the same name.
* `exists_labels_collect` — **the tables of a statement are the tables to read from and the other
  names that it uses, in the order of their names.**
-/

namespace SqlAnalysis.Sql.Collection

/-! ### Labels -/

/-- The name and the alias of a table. -/
def label (t : TableUse) : String × Option String :=
  (t.name, t.aliasName)

/-- The label of the named table to read from that a part is. -/
def factorLabel? : Part → Option (String × Option String)
  | .factor path aliasName => (baseName? path).map (·, aliasName)
  | _ => none

/-- The labels of the named tables to read from, names of queries left out. -/
def keptLabels (visits : List Part) : List (String × Option String) :=
  (visits.filterMap factorLabel?).filter fun l => l.1 ∉ queryNames visits

/-- The statement uses the name as that of a table: the name is visited, or it is the target of
the first insertion into a named table. -/
def IsRelation (visits : List Part) (name : String) : Prop :=
  (∃ path, Part.relation path ∈ visits ∧ baseName? path = some name) ∨
    ∃ i, insertion? visits = some i ∧ i.table = name

theorem map_label_factors (visits : List Part) :
    (factors visits).map label = visits.filterMap factorLabel? := by
  rw [factors, List.map_filterMap]
  congr 1
  funext p
  cases p with
  | factor path aliasName => cases h : baseName? path <;> simp [factorLabel?, label, h]
  | _ => rfl

/-- The tables that are not names of queries have the labels that are kept. -/
theorem map_label_filter_factors (visits : List Part) :
    ((factors visits).filter fun t => !(queryNames visits).contains t.name).map label
      = keptLabels visits := by
  rw [keptLabels, ← map_label_factors, List.filter_map]
  congr 2
  funext t
  rw [Bool.eq_iff_iff, Bool.not_eq_true', List.contains_eq_mem, decide_eq_false_iff_not]
  exact decide_eq_true_iff.symm

/-- The loop over the visits meets exactly the names that are used; a target of an insertion that
has been met already is not met again. -/
theorem mem_relationsFrom {inserted : Bool} {visits : List Part} {name : String} :
    name ∈ relationsFrom inserted visits ↔
      (∃ path, Part.relation path ∈ visits ∧ baseName? path = some name) ∨
        inserted = false ∧ ∃ i, insertion? visits = some i ∧ i.table = name := by
  fun_induction relationsFrom inserted visits with
  | case1 => simp [insertion?]
  | case2 inserted path vs ih =>
    have hfirst : insertion? (.relation path :: vs) = insertion? vs := rfl
    rw [List.mem_append, ih, Option.mem_toList, hfirst]
    simp only [List.mem_cons, Part.relation.injEq]
    constructor
    · rintro (h | ⟨p, hp, hname⟩ | h)
      · exact .inl ⟨path, .inl rfl, h⟩
      · exact .inl ⟨p, .inr hp, hname⟩
      · exact .inr h
    · rintro (⟨p, rfl | hp, hname⟩ | h)
      · exact .inl hname
      · exact .inr (.inl ⟨p, hp, hname⟩)
      · exact .inr (.inr h)
  | case3 v vs hv i hi ih =>
    have hfirst : insertion? (v :: vs) = some i := by simp [insertion?, hi]
    have hne : ∀ path, Part.relation path ≠ v := fun path h => hv path h.symm
    rw [List.mem_cons, ih, hfirst]
    simp [hne, eq_comm, or_comm]
  | case4 v vs hv hi ih =>
    have hfirst : insertion? (v :: vs) = insertion? vs := by simp [insertion?, hi]
    have hne : ∀ path, Part.relation path ≠ v := fun path h => hv path h.symm
    rw [ih, hfirst]
    simp [hne]
  | case5 v vs hv ih =>
    have hne : ∀ path, Part.relation path ≠ v := fun path h => hv path h.symm
    rw [ih]
    simp [hne]

theorem mem_relations {visits : List Part} {name : String} :
    name ∈ relations visits ↔ IsRelation visits name := by
  rw [relations, mem_relationsFrom, IsRelation]
  simp

/-! ### Adding names -/

theorem mentions_eq_any (ts : List TableUse) (name : String) :
    mentions ts name = (ts.map label).any fun l => l.1 == name || l.2 == some name := by
  rw [List.any_map]
  rfl

/-- The names `met` have been added to the tables `ts`, up to those that name queries or were
accounted for at the start; `added` are the ones that were. -/
structure Adds (names : List String) (ts : List TableUse) (met : List String)
    (added : List String) (ts' : List TableUse) : Prop where
  /-- The names come behind the tables, without aliases. -/
  labels : ts'.map label = ts.map label ++ added.map (·, none)
  /-- No name is added twice. -/
  nodup : added.Nodup
  /-- The names that are added. -/
  mem_iff : ∀ n, n ∈ added ↔ n ∈ met ∧ n ∉ names ∧ mentions ts n = false

namespace Adds

variable {names met added : List String} {ts ts' : List TableUse}

theorem mentions_iff (h : Adds names ts met added ts') {name : String} :
    mentions ts' name = true ↔ mentions ts name = true ∨ name ∈ added := by
  rw [mentions_eq_any, mentions_eq_any, h.labels, List.any_append, Bool.or_eq_true, List.any_map]
  simp

/-- One more name is met. -/
theorem step (h : Adds names ts met added ts') (name : String) :
    ∃ added', Adds names ts (met ++ [name]) added' (addRelation names ts' name) := by
  unfold addRelation
  by_cases hknown : names.contains name || mentions ts' name
  · -- nothing is added, and what was asked of the name holds already
    refine ⟨added, by simpa only [if_pos hknown] using h.labels, h.nodup, fun n => ?_⟩
    rw [h.mem_iff, List.mem_append, List.mem_singleton]
    constructor
    · rintro ⟨hmet, hnew⟩
      exact ⟨.inl hmet, hnew⟩
    · rintro ⟨hmet | rfl, hnames, hts⟩
      · exact ⟨hmet, hnames, hts⟩
      · have hthere : mentions ts' n = true := by simpa [hnames] using hknown
        rcases h.mentions_iff.mp hthere with hthere | hthere
        · simp [hts] at hthere
        · exact (h.mem_iff n).mp hthere
  · obtain ⟨hnames, hts'⟩ : name ∉ names ∧ mentions ts' name = false := by simpa using hknown
    have hnot : ¬(mentions ts name = true ∨ name ∈ added) := by
      rw [← h.mentions_iff, hts']
      simp
    obtain ⟨hts, hadded⟩ := not_or.mp hnot
    -- the name comes last, and it differs from all names added before
    refine ⟨added ++ [name], ?_, ?_, fun n => ?_⟩
    · rw [if_neg hknown, List.map_append, h.labels, List.map_append, List.append_assoc]
      rfl
    · refine List.nodup_append.mpr ⟨h.nodup, by simp, fun a ha b hb => ?_⟩
      rw [List.mem_singleton.mp hb]
      rintro rfl
      exact hadded ha
    · simp only [List.mem_append, List.mem_singleton, h.mem_iff]
      constructor
      · rintro (⟨hmet, hnew⟩ | rfl)
        · exact ⟨.inl hmet, hnew⟩
        · exact ⟨.inr rfl, hnames, by simpa using hts⟩
      · rintro ⟨hmet | rfl, hnew⟩
        · exact .inl ⟨hmet, hnew⟩
        · exact .inr rfl

/-- Several more names are met. -/
theorem foldl (h : Adds names ts met added ts') (rs : List String) :
    ∃ added', Adds names ts (met ++ rs) added' (rs.foldl (addRelation names) ts') := by
  induction rs generalizing met added ts' with
  | nil => exact ⟨added, by simpa using h⟩
  | cons r rs ih =>
    obtain ⟨added', h'⟩ := h.step r
    obtain ⟨added'', h''⟩ := ih h'
    exact ⟨added'', by simpa using h''⟩

end Adds

/-- The loop adds each name that is met and not accounted for, once. -/
theorem exists_adds_foldl (names : List String) (ts : List TableUse) (rs : List String) :
    ∃ added, Adds names ts rs added (rs.foldl (addRelation names) ts) := by
  have hstart : Adds names ts [] [] ts := ⟨by simp, by simp, by simp⟩
  simpa using hstart.foldl rs

/-! ### The order of names -/

theorem nameLE_iff {a b : String} : nameLE a b = true ↔ a ≤ b := by
  rw [nameLE, Bool.not_eq_true', decide_eq_false_iff_not, String.not_lt]

theorem nameLE_trans (a b c : String) (hab : nameLE a b = true) (hbc : nameLE b c = true) :
    nameLE a c = true :=
  nameLE_iff.mpr (String.le_trans (nameLE_iff.mp hab) (nameLE_iff.mp hbc))

theorem nameLE_total (a b : String) : (nameLE a b || nameLE b a) = true := by
  rw [Bool.or_eq_true, nameLE_iff, nameLE_iff]
  exact String.le_total a b

/-- Sorting by name keeps the order of the elements with the same name. -/
theorem filter_mergeSort {α : Type} (name : α → String) (n : String) (l : List α) :
    (l.mergeSort fun a b => nameLE (name a) (name b)).filter (name · = n)
      = l.filter (name · = n) := by
  have hequal : (l.filter (name · = n)).Pairwise fun a b => nameLE (name a) (name b) := by
    refine List.pairwise_of_forall_mem_list fun a ha b hb => ?_
    have hname : name a = name b :=
      (of_decide_eq_true (List.mem_filter.mp ha).2).trans
        (of_decide_eq_true (List.mem_filter.mp hb).2).symm
    rw [hname]
    exact nameLE_iff.mpr (String.le_refl _)
  -- so they are a sublist of the sorted list, and both have equally many of them
  have hsub := (List.sublist_mergeSort
    (fun a b c => nameLE_trans (name a) (name b) (name c))
    (fun a b => nameLE_total (name a) (name b)) hequal List.filter_sublist).filter (name · = n)
  simp only [List.filter_filter, Bool.and_self] at hsub
  have hlength := ((List.mergeSort_perm l fun a b => nameLE (name a) (name b)).filter
    (name · = n)).length_eq
  exact (hsub.eq_of_length hlength.symm).symm

/-- Sorting by name puts names in order. -/
theorem pairwise_mergeSort {α : Type} (name : α → String) (l : List α) :
    (l.mergeSort fun a b => nameLE (name a) (name b)).Pairwise fun a b => name a ≤ name b :=
  (List.pairwise_mergeSort (fun a b c => nameLE_trans (name a) (name b) (name c))
    (fun a b => nameLE_total (name a) (name b)) l).imp nameLE_iff.mp

/-- The tables of a statement carry the labels that are met, in the order of their names. -/
theorem map_label_collect (kind : Statement.Kind) (range : Text.Span) (visits : List Part) :
    (collect kind range visits).tables.map label
      = ((tables visits).map label).mergeSort fun a b => nameLE a.1 b.1 := by
  have hfilled : (filledTables visits).map label = (tables visits).map label := by
    rw [filledTables_eq_mapIdx]
    refine List.ext_getElem? fun k => ?_
    rw [List.getElem?_map, List.getElem?_mapIdx, List.getElem?_map, Option.map_map]
    rfl
  have hsorted : ((filledTables visits).mergeSort fun a b => nameLE a.name b.name).map label
      = ((filledTables visits).map label).mergeSort fun a b => nameLE a.1 b.1 :=
    List.map_mergeSort fun _ _ _ _ => rfl
  rw [← hfilled, ← hsorted, collect, List.map_map]
  rfl

/-! ### The tables -/

/-- In the order in which they are met, the tables are those to read from, and then the names
that are added. -/
theorem exists_map_label_tables (visits : List Part) :
    ∃ added : List String, added.Nodup ∧
      (∀ n, n ∈ added ↔ IsRelation visits n ∧ n ∉ queryNames visits ∧
        ∀ l ∈ keptLabels visits, l.1 ≠ n ∧ l.2 ≠ some n) ∧
      (tables visits).map label = keptLabels visits ++ added.map (·, none) := by
  obtain ⟨added, hadds⟩ := exists_adds_foldl (queryNames visits)
    ((factors visits).filter fun t => !(queryNames visits).contains t.name) (relations visits)
  refine ⟨added, hadds.nodup, fun n => ?_, ?_⟩
  · rw [hadds.mem_iff, mem_relations, mentions_eq_any, map_label_filter_factors]
    simp
  · rw [← map_label_filter_factors]
    exact hadds.labels

/-- A name that is met and names no query is the name or the alias of a table to read from, or it
is added. -/
theorem exists_keptLabels_or_isRelation {visits : List Part} {n : String}
    (hn : IsRelation visits n ∨ n ∈ (visits.filterMap factorLabel?).map (·.1))
    (hnames : n ∉ queryNames visits) :
    (∃ l ∈ keptLabels visits, l.1 = n ∨ l.2 = some n) ∨
      IsRelation visits n ∧ ∀ l ∈ keptLabels visits, l.1 ≠ n ∧ l.2 ≠ some n := by
  by_cases hkept : ∃ l ∈ keptLabels visits, l.1 = n ∨ l.2 = some n
  · exact .inl hkept
  · refine .inr ⟨hn.resolve_right fun hfactor => hkept ?_, fun l hl => ?_⟩
    · obtain ⟨l, hl, rfl⟩ := List.mem_map.mp hfactor
      exact ⟨l, List.mem_filter.mpr ⟨hl, by simpa using hnames⟩, .inl rfl⟩
    · exact not_or.mp fun hname => hkept ⟨l, hl, hname⟩

/-- **The tables of a statement.**  Their labels are those of the tables to read from, as often as
these are met, and each other name that the statement uses, once and without alias, unless a table
to read from has it as its name or alias; names of queries are left out of both.  The labels are
in the order of their names, and those of one name in the order in which they are met.  So no
table is named like a query, and every other name that is met is found as a name or an alias. -/
theorem exists_labels_collect (kind : Statement.Kind) (range : Text.Span) (visits : List Part) :
    let labels := (collect kind range visits).tables.map label
    (∃ added : List String, added.Nodup ∧
      (∀ n, n ∈ added ↔ IsRelation visits n ∧ n ∉ queryNames visits ∧
        ∀ l ∈ keptLabels visits, l.1 ≠ n ∧ l.2 ≠ some n) ∧
      labels.Perm (keptLabels visits ++ added.map (·, none)) ∧
      ∀ n, labels.filter (·.1 = n)
        = (keptLabels visits ++ added.map (·, none)).filter (·.1 = n)) ∧
    (labels.Pairwise fun a b => a.1 ≤ b.1) ∧
    (∀ l ∈ labels, l.1 ∉ queryNames visits) ∧
    ∀ n, IsRelation visits n ∨ n ∈ (visits.filterMap factorLabel?).map (·.1) →
      n ∉ queryNames visits → ∃ l ∈ labels, l.1 = n ∨ l.2 = some n := by
  intro labels
  obtain ⟨added, hnodup, hadded, hmet⟩ := exists_map_label_tables visits
  have hlabels : labels
      = (keptLabels visits ++ added.map (·, none)).mergeSort fun a b => nameLE a.1 b.1 := by
    rw [← hmet]
    exact map_label_collect kind range visits
  have hperm : labels.Perm (keptLabels visits ++ added.map (·, none)) :=
    hlabels ▸ List.mergeSort_perm _ _
  refine ⟨⟨added, hnodup, hadded, hperm, fun n => ?_⟩, ?_, fun l hl => ?_, fun n hn hnames => ?_⟩
  · rw [hlabels]
    exact filter_mergeSort Prod.fst n _
  · rw [hlabels]
    exact pairwise_mergeSort Prod.fst _
  · rcases List.mem_append.mp (hperm.mem_iff.mp hl) with hl | hl
    · simpa using (List.mem_filter.mp hl).2
    · obtain ⟨n, hn, rfl⟩ := List.mem_map.mp hl
      exact ((hadded n).mp hn).2.1
  · rcases exists_keptLabels_or_isRelation hn hnames with ⟨l, hl, hname⟩ | ⟨hused, hnew⟩
    · exact ⟨l, hperm.mem_iff.mpr (List.mem_append_left _ hl), hname⟩
    · have hmem : n ∈ added := (hadded n).mpr ⟨hused, hnames, hnew⟩
      exact ⟨(n, none),
        hperm.mem_iff.mpr (List.mem_append_right _ (List.mem_map_of_mem hmem)), .inl rfl⟩

/-- A table that is read twice counts twice, also where its alias is used as a name; the target of
an insertion counts once, and the name `c` is that of a query although it is given behind its
use. -/
theorem exists_labels_collect_insertion :
    let path : String → List Ident := fun n => [⟨n, none⟩]
    let visits : List Part :=
      [.insertion (path "b") [] none, .relation (path "b"), .factor (path "a") (some "x"),
       .relation (path "a"), .relation (path "x"), .factor (path "c") none, .relation (path "c"),
       .query ["c"], .relation (path "b"), .factor (path "a") none, .relation (path "a")]
    let labels := (collect .insert ⟨0, 80⟩ visits).tables.map label
    IsRelation visits "x" ∧ "x" ∉ queryNames visits ∧
      (∃ l ∈ labels, l.1 = "x" ∨ l.2 = some "x") ∧
      ("a", some "x") ∈ labels ∧ "a" ∉ queryNames visits ∧
      labels = [("a", some "x"), ("a", none), ("b", none)] := by
  intro path visits labels
  obtain ⟨-, -, hqueries, hfound⟩ := exists_labels_collect .insert ⟨0, 80⟩ visits
  have hused : IsRelation visits "x" := .inl ⟨path "x", by simp [visits], by decide⟩
  have hnames : "x" ∉ queryNames visits := by decide
  have hlabels : labels = [("a", some "x"), ("a", none), ("b", none)] := by
    have hmet : (tables visits).map label = [("a", some "x"), ("a", none), ("b", none)] := by
      decide +kernel
    have hcollected := map_label_collect .insert ⟨0, 80⟩ visits
    rw [hmet, List.mergeSort_of_pairwise (by decide)] at hcollected
    exact hcollected
  have hread : ("a", some "x") ∈ labels := by
    rw [hlabels]
    decide
  exact ⟨hused, hnames, hfound "x" (.inl hused) hnames, hread, hqueries _ hread, hlabels⟩

end SqlAnalysis.Sql.Collection
