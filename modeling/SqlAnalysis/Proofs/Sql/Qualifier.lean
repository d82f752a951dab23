import SqlAnalysis.Proofs.Sql.Target
import SqlAnalysis.Proofs.Sql.WrittenName

/-!
# Columns qualified by the name of their table

A column may be qualified by the name of a table without alias.  The qualifier is the identifier
itself, while the name of the table is read off the identifier as it is written.  So the column goes
to the table exactly if the identifier keeps its name: with a quote at one of its ends, or with a
lone backquote inside, the table is known by another name and does not answer to its own.

## Main definitions

* `NamesTable` — a name is that of a table without alias.

## Main results

* `exists_answersTo` — some table answers to the name of a table without alias.
* `owner?_of_answersTo` — a qualifier that a table answers to has an owner.
* `keepsName_of_owner?` — a table that answers to the identifier in its name keeps that name.
* `qualifies_iff_keepsName` — **a table answers to its identifier exactly if that keeps its name.**
* `qualifier_lost` — a column whose table does not answer to its own identifier.
-/

namespace SqlAnalysis.Sql.Collection

variable {visits : List Part} {path : List Ident} {i : Ident}

theorem answersTo_iff {t : TableUse} {q : String} :
    t.answersTo q = true ↔ t.aliasName = some q ∨ t.aliasName = none ∧ t.name = q := by
  unfold TableUse.answersTo
  cases t.aliasName with
  | none => simp
  | some a => simp

/-- A column behind its qualifier is referred to. -/
theorem reference_mem_of_visited {qualifiers : List Ident} {q c : Ident}
    (h : Part.expr (.column (qualifiers ++ [q, c])) ∈ visits) :
    ⟨some q.text, c.text⟩ ∈ references visits := by
  refine List.mem_filterMap.mpr ⟨_, h, ?_⟩
  simp [Expr.reference?]

/-- Without alias, the path names a table: one to read from, or one that is named elsewhere, unless
its name is that of a table to read from with an alias. -/
def NamesTable (visits : List Part) (path : List Ident) : Prop :=
  Part.factor path none ∈ visits ∨
    Part.relation path ∈ visits ∧ ∀ l ∈ keptLabels visits, some l.1 = baseName? path → l.2 = none

/-- Some table answers to the name of a table without alias. -/
theorem exists_answersTo (hnamed : NamesTable visits path) {name : String}
    (hname : baseName? path = some name) (hquery : name ∉ queryNames visits) :
    ∃ t ∈ tables visits, t.answersTo name = true := by
  obtain ⟨added, -, hadded, hmet⟩ := exists_map_label_tables visits
  -- it is met with the name and without alias, or with the name as its alias
  suffices hlabel : ∃ l ∈ (tables visits).map label, l.2 = some name ∨ l.2 = none ∧ l.1 = name by
    obtain ⟨l, hl, hanswers⟩ := hlabel
    obtain ⟨t, ht, rfl⟩ := List.mem_map.mp hl
    exact ⟨t, ht, answersTo_iff.mpr hanswers⟩
  rw [hmet]
  rcases hnamed with hfactor | ⟨hrelation, hfree⟩
  · have hlabel : factorLabel? (.factor path none) = some (name, none) := by
      rw [factorLabel?, hname, Option.map_some]
    have hkept : (name, none) ∈ keptLabels visits :=
      List.mem_filter.mpr ⟨List.mem_filterMap.mpr ⟨_, hfactor, hlabel⟩, by simpa using hquery⟩
    exact ⟨(name, none), List.mem_append_left _ hkept, .inr ⟨rfl, rfl⟩⟩
  · have hused : IsRelation visits name := .inl ⟨path, hrelation, hname⟩
    rcases exists_keptLabels_or_isRelation (.inl hused) hquery with ⟨l, hl, hl'⟩ | ⟨-, hnew⟩
    · refine ⟨l, List.mem_append_left _ hl, ?_⟩
      rcases hl' with hown | halias
      · exact .inr ⟨hfree l hl (hname ▸ congrArg some hown), hown⟩
      · exact .inl halias
    · have hmem : name ∈ added := (hadded name).mpr ⟨hused, hquery, hnew⟩
      exact ⟨(name, none), List.mem_append_right _ (List.mem_map_of_mem hmem), .inr ⟨rfl, rfl⟩⟩

/-- Aliases are given to tables to read from only. -/
theorem exists_keptLabels_of_alias {t : TableUse} (ht : t ∈ tables visits) {a : String}
    (ha : t.aliasName = some a) : ∃ l ∈ keptLabels visits, l.2 = some a := by
  obtain ⟨added, -, -, hmet⟩ := exists_map_label_tables visits
  have hlabel : label t ∈ keptLabels visits ++ added.map (·, none) :=
    hmet ▸ List.mem_map_of_mem ht
  rcases List.mem_append.mp hlabel with hlabel | hlabel
  · exact ⟨label t, hlabel, ha⟩
  · obtain ⟨n, -, hn⟩ := List.mem_map.mp hlabel
    have hnone : none = t.aliasName := congrArg Prod.snd hn
    rw [ha] at hnone
    cases hnone

/-- A qualifier that a table answers to has an owner, which is a table without alias unless the
qualifier is the alias of one. -/
theorem owner?_of_answersTo {name : String} (h : ∃ t ∈ tables visits, t.answersTo name = true) :
    ∃ k t, owner? (tables visits) (some name) = some k ∧ (tables visits)[k]? = some t ∧
      t.answersTo name = true ∧
        ((∀ l ∈ keptLabels visits, l.2 ≠ some name) → label t = (name, none)) := by
  obtain ⟨k, hk⟩ := exists_findIdx?_eq_some h
  obtain ⟨t, ht, hanswers⟩ := exists_of_findIdx?_eq_some hk
  refine ⟨k, t, hk, ht, hanswers, fun hfree => ?_⟩
  rcases answersTo_iff.mp hanswers with hother | ⟨hnone, hown⟩
  · obtain ⟨l, hl, hl'⟩ := exists_keptLabels_of_alias (List.mem_of_getElem? ht) hother
    exact absurd hl' (hfree l hl)
  · exact Prod.ext hown hnone

/-- A column whose qualifier has an owner is one of the columns of that table. -/
theorem exists_column_of_owner? (kind : Statement.Kind) (range : Text.Span) {k : Nat}
    {t : TableUse} {qualifier column : String}
    (howner : owner? (tables visits) (some qualifier) = some k)
    (hk : (tables visits)[k]? = some t)
    (hreference : ⟨some qualifier, column⟩ ∈ references visits) :
    ∃ t' ∈ (collect kind range visits).tables, label t' = label t ∧ (t'.column? column).isSome := by
  obtain ⟨t', ht', hlabel, hcolumns⟩ := exists_columns_collect kind range hk
  have howned : ⟨some qualifier, column⟩ ∈ ownedReferences visits k :=
    List.mem_filter.mpr ⟨hreference, by rw [howner, beq_self_eq_true]⟩
  have hcolumn : column ∈ columnNames visits k :=
    List.mem_eraseDups.mpr (List.mem_append_left _ (List.mem_map_of_mem howned))
  exact ⟨t', ht', hlabel, hcolumns column hcolumn⟩

/-- A table without alias that answers to the identifier in its name is known by it. -/
theorem keepsName_of_owner? (hlast : path.getLast? = some i) (hne : i.text ≠ "")
    (hquote : i.quote = none ∨ i.quote = some '`') {k : Nat} {t : TableUse}
    (hk : (tables visits)[k]? = some t) (hname : some t.name = baseName? path)
    (halias : t.aliasName = none) (howner : owner? (tables visits) (some i.text) = some k) :
    i.KeepsName := by
  obtain ⟨t', ht', hanswers⟩ := exists_of_findIdx?_eq_some howner
  obtain rfl : t' = t := Option.some.inj (ht'.symm.trans hk)
  rw [answersTo_iff, halias] at hanswers
  obtain ⟨-, hown⟩ := hanswers.resolve_left (by simp)
  exact (baseName?_eq_text_iff hlast hne hquote).mp (hown ▸ hname.symm)

/-- **A table answers to its identifier exactly if that keeps its name.**  A table has no alias, its
name ends in an identifier that is bare or stands between backquotes, and a column is qualified by
the same identifier, however that is quoted.  The name of the table is the identifier exactly if
that keeps its name.  If it does, and is not the name of a query, the column goes to a table that
answers to the identifier, and that is a table of this name unless it is given to another table as
an alias.  If it does not, the column does not go to the table. -/
theorem qualifies_iff_keepsName (kind : Statement.Kind) (range : Text.Span)
    (hlast : path.getLast? = some i) (hne : i.text ≠ "")
    (hquote : i.quote = none ∨ i.quote = some '`') (hnamed : NamesTable visits path)
    {qualifiers : List Ident} {q c : Ident} (hq : q.text = i.text)
    (hcolumn : Part.expr (.column (qualifiers ++ [q, c])) ∈ visits) :
    (baseName? path = some i.text ↔ i.KeepsName) ∧
    (i.KeepsName → i.text ∉ queryNames visits →
      ∃ t ∈ (collect kind range visits).tables, (t.column? c.text).isSome ∧
        t.answersTo i.text = true ∧
          ((∀ l ∈ keptLabels visits, l.2 ≠ some i.text) → label t = (i.text, none))) ∧
    (¬i.KeepsName → ∀ k t, (tables visits)[k]? = some t → some t.name = baseName? path →
      t.aliasName = none → owner? (tables visits) (some q.text) ≠ some k) := by
  have hkeeps := baseName?_eq_text_iff hlast hne hquote
  refine ⟨hkeeps, fun hkept hquery => ?_, fun hlost k t hk hname halias howner => ?_⟩
  · obtain ⟨k, t, howner, hk, hanswers, hown⟩ :=
      owner?_of_answersTo (exists_answersTo hnamed (hkeeps.mpr hkept) hquery)
    have hreference := hq ▸ reference_mem_of_visited hcolumn
    obtain ⟨t', ht', hlabel, hfound⟩ := exists_column_of_owner? kind range howner hk hreference
    refine ⟨t', ht', hfound, ?_, fun hfree => hlabel.trans (hown hfree)⟩
    obtain ⟨hname, halias⟩ := Prod.mk.inj hlabel
    rw [answersTo_iff] at hanswers ⊢
    rwa [hname, halias]
  · rw [hq] at howner
    exact hlost (keepsName_of_owner? hlast hne hquote hk hname halias howner)

/-- A double quote and two backquotes in a row inside an identifier are kept, and so the column goes
to its table; the other table has an alias. -/
theorem qualifies_between_backquotes :
    let i : Ident := ⟨"a\"b``c", some '`'⟩
    let path : List Ident := [⟨"d", none⟩, i]
    let visits : List Part :=
      [.query [], .expr (.column [i, ⟨"x", none⟩]), .factor [⟨"u", none⟩] (some "w"),
       .relation [⟨"u", none⟩], .factor path none, .relation path]
    path.getLast? = some i ∧ i.text ≠ "" ∧ i.quote = some '`' ∧ NamesTable visits path ∧
      Part.expr (.column ([] ++ [i, ⟨"x", none⟩])) ∈ visits ∧ i.KeepsName ∧
        baseName? path = some i.text ∧ i.text ∉ queryNames visits ∧
          ∃ t ∈ (collect .select ⟨0, 60⟩ visits).tables, (t.column? "x").isSome ∧
            label t = (i.text, none) := by
  intro i path visits
  have hlast : path.getLast? = some i := rfl
  have hnamed : NamesTable visits path := .inl (by simp [visits])
  have hcolumn : Part.expr (.column ([] ++ [i, ⟨"x", none⟩])) ∈ visits := by simp [visits]
  have hkept : i.KeepsName :=
    ⟨trimmed_eq_self_iff.mp (by decide), fun _ => doubleQuotes_eq_self_iff.mp (by decide)⟩
  have hquery : i.text ∉ queryNames visits := by decide
  have hfree : ∀ l ∈ keptLabels visits, l.2 ≠ some i.text := by decide +kernel
  obtain ⟨hname, hresolves, -⟩ :=
    qualifies_iff_keepsName .select ⟨0, 60⟩ hlast (by decide) (.inr rfl) hnamed rfl hcolumn
  obtain ⟨t, ht, hfound, -, hlabel⟩ := hresolves hkept hquery
  exact ⟨hlast, by decide, rfl, hnamed, hcolumn, hkept, hname.mpr hkept, hquery, t, ht, hfound,
    hlabel hfree⟩

/-- A backquote inside the identifier, doubled as it has to be.  The parser of this library reads
the same identifier as the name of the table and as the qualifier of the column, but the table is
known by a name with two backquotes, and it has no column. -/
theorem qualifier_lost :
    let query := "SELECT `a``b`.x FROM `a``b`"
    let i : Ident := ⟨"a`b", some '`'⟩
    (∃ o, (readQuery query).outlines.toOption = some [o] ∧
      (visitsAll o.parts).filterMap (fun | .factor path none => some path | _ => none) = [[i]] ∧
        references (visitsAll o.parts) = [⟨some i.text, "x"⟩]) ∧
    baseName? [i] = some "a``b" ∧
    (frontend defaultLimit query).toOption
      = some (.parsed [⟨.select, ⟨0, 27⟩, [⟨"a``b", none, []⟩], none⟩]) := by
  intro query i
  have hread : (readQuery query).outlines.toOption.map (List.map fun o =>
      ((visitsAll o.parts).filterMap (fun | .factor path none => some path | _ => none),
        references (visitsAll o.parts)))
        = some [([[i]], [⟨some i.text, "x"⟩])] := by
    decide +kernel
  refine ⟨?_, by decide, by decide +kernel⟩
  obtain ⟨os, hos, hmap⟩ := Option.map_eq_some_iff.mp hread
  obtain ⟨o, rfl, ho⟩ := List.map_eq_singleton_iff.mp hmap
  obtain ⟨hpaths, hreferences⟩ := Prod.mk.inj ho
  exact ⟨o, hos, hpaths, hreferences⟩

end SqlAnalysis.Sql.Collection
