import SqlAnalysis.CommandLine

/-!
# Command lines with parts left out

The arguments of the program are options, the name of a command, and behind it options again with
the query among them.  Options are read one after the other and leave no trace but their values, so
what stands behind them is read as if they were not there.  If the query is left out of a command
line that holds one, the same is asked for about a query that is read from the input; if the schema
option is left out, the same is asked for without schema file.

## Main definitions

* `Command.withQuery`, `Invocation.withQuery` — the same about another query, or the one in the
  input.
* `IsOption`, `Options` — arguments that are options with their values.

## Main results

* `exists_options` — every list of arguments starts with options as far as there are any.
* `exists_of_read` — options of the program do not depend on the command behind them.
* `exists_read_without_schema`, `exists_read_without_query` — **a command line stays one when its
  schema option or its query is left out.**
-/

namespace SqlAnalysis.CommandLine

open Text

/-- The same command about another query; none stands for the one in the input. -/
def Command.withQuery (query : Option String) : Command → Command
  | check _ json => check query json
  | hover offset _ => hover offset query
  | complete _ => complete query

/-- The same about another query; none stands for the one in the input. -/
def Invocation.withQuery (i : Invocation) (query : Option String) : Invocation :=
  { i with command := i.command.withQuery query }

@[simp] theorem Command.query_withQuery (query : Option String) (c : Command) :
    (c.withQuery query).query = query := by
  cases c <;> rfl

/-! ### Options -/

section

variable {switches : List Switch}

/-- Arguments that are one option with its value, which stands in the argument itself or is the
next one. -/
inductive IsOption (switches : List Switch) : List String → (name value : String) → Prop
  | attached {arg name value : String} (hdash : arg ≠ "--") (hlooks : looksLikeSwitch arg = true)
    (hswitch : switchOf switches arg = .complete (.switch name value)) :
    IsOption switches [arg] name value
  | separate {arg name value : String} (hdash : arg ≠ "--") (hlooks : looksLikeSwitch arg = true)
    (hswitch : switchOf switches arg = .incomplete name)
    (hvalue : looksLikeSwitch value = false) : IsOption switches [arg, value] name value

/-- Arguments that are options with their values, and the events that they are read as. -/
inductive Options (switches : List Switch) : List String → List Event → Prop
  | nil : Options switches [] []
  | cons {own args : List String} {name value : String} {es : List Event}
    (hown : IsOption switches own name value) (hargs : Options switches args es) :
    Options switches (own ++ args) (.switch name value :: es)

/-- What stands behind an option is read as if it was not there. -/
theorem IsOption.events_append {own : List String} {name value : String}
    (h : IsOption switches own name value) (rest : List String) :
    events switches none (own ++ rest) = .switch name value :: events switches none rest := by
  cases h with
  | attached hdash hlooks hswitch =>
    rw [List.cons_append, List.nil_append, events, if_neg hdash, if_pos hlooks, hswitch]
  | separate hdash hlooks hswitch hvalue =>
    have hnot : ¬looksLikeSwitch value = true := Bool.eq_false_iff.mp hvalue
    rw [List.cons_append, List.cons_append, List.nil_append, events, if_neg hdash, if_pos hlooks,
      hswitch]
    exact if_neg hnot

/-- What stands behind options is read as if they were not there. -/
theorem Options.events_append {front : List String} {es : List Event}
    (h : Options switches front es) (rest : List String) :
    events switches none (front ++ rest) = es ++ events switches none rest := by
  induction h with
  | nil => rfl
  | cons hown _ ih => rw [List.append_assoc, hown.events_append, ih, List.cons_append]

/-- An event that a complete option can be: one of the known options, or none of them. -/
def Event.IsSwitch (event : Event) : Prop :=
  event = .wrong ∨ ∃ name value, event = .switch name value

theorem isSwitch_of_longSwitch {text : List Char} {event : Event}
    (h : longSwitch switches text = .complete event) : event.IsSwitch := by
  unfold longSwitch at h
  split at h
  split at h
  · cases h
    split
    · exact .inr ⟨_, _, rfl⟩
    · exact .inl rfl
  · split at h
    · cases h
    · cases h
      exact .inr ⟨_, _, rfl⟩
  · cases h
    exact .inl rfl

theorem isSwitch_of_shortSwitch {letter : Char} {text : List Char} {event : Event}
    (h : shortSwitch switches letter text = .complete event) : event.IsSwitch := by
  unfold shortSwitch at h
  split at h
  · cases h
    exact .inl rfl
  · split at h
    · split at h
      · cases h
      · cases h
        exact .inr ⟨_, _, rfl⟩
      · cases h
        exact .inr ⟨_, _, rfl⟩
    · cases h
      exact .inr ⟨_, _, rfl⟩

/-- An option that is complete is one of the known ones, or it is wrong. -/
theorem isSwitch_of_switchOf {arg : String} {event : Event}
    (h : switchOf switches arg = .complete event) : event.IsSwitch := by
  unfold switchOf at h
  split at h
  · exact isSwitch_of_longSwitch h
  · exact isSwitch_of_shortSwitch h
  · cases h
    exact .inl rfl

/-- Where options end: at something wrong, at the end, at `--`, or at another argument. -/
inductive Ended (switches : List Switch) : List String → Prop
  | wrong {args : List String} {es : List Event}
    (hwrong : events switches none args = .wrong :: es) : Ended switches args
  | done : Ended switches []
  | escape (rest : List String) : Ended switches ("--" :: rest)
  | plain {arg : String} (rest : List String) (hdash : arg ≠ "--")
    (hlooks : looksLikeSwitch arg = false) : Ended switches (arg :: rest)

/-- **Every list of arguments starts with options, as far as there are any.** -/
theorem exists_options (switches : List Switch) : ∀ args : List String,
    ∃ front es rest, Options switches front es ∧ args = front ++ rest ∧ Ended switches rest
  | [] => ⟨[], [], [], .nil, rfl, .done⟩
  | arg :: args => by
    by_cases hdash : arg = "--"
    · subst hdash
      exact ⟨[], [], _, .nil, rfl, .escape args⟩
    by_cases hlooks : looksLikeSwitch arg = true
    · cases hswitch : switchOf switches arg with
      | complete event =>
        rcases isSwitch_of_switchOf hswitch with rfl | ⟨name, value, rfl⟩
        · have hwrong : events switches none (arg :: args)
              = .wrong :: events switches none args := by
            rw [events, if_neg hdash, if_pos hlooks, hswitch]
          exact ⟨[], [], _, .nil, rfl, .wrong hwrong⟩
        · obtain ⟨front, es, rest, hfront, rfl, hrest⟩ := exists_options switches args
          exact ⟨_, _, rest, .cons (.attached hdash hlooks hswitch) hfront, rfl, hrest⟩
      | incomplete name =>
        have hpending : events switches none (arg :: args) = events switches (some name) args := by
          rw [events, if_neg hdash, if_pos hlooks, hswitch]
        match args with
        | [] => exact ⟨[], [], _, .nil, rfl, .wrong hpending⟩
        | value :: args =>
          by_cases hvalue : looksLikeSwitch value = true
          · rw [events, if_pos hvalue] at hpending
            exact ⟨[], [], _, .nil, rfl, .wrong hpending⟩
          · obtain ⟨front, es, rest, hfront, rfl, hrest⟩ := exists_options switches args
            have hown := IsOption.separate hdash hlooks hswitch (Bool.eq_false_iff.mpr hvalue)
            exact ⟨_, _, rest, .cons hown hfront, rfl, hrest⟩
    · exact ⟨[], [], _, .nil, rfl, .plain args hdash (Bool.eq_false_iff.mpr hlooks)⟩

end

/-! ### Behind the name of a command -/

/-- An option of a command sets what it sets, whatever follows, and not the query. -/
theorem exists_of_commandArguments_switch {a a' : CommandArguments} {name value : String}
    {es : List Event} (h : commandArguments a (.switch name value :: es) = some (some a')) :
    ∃ b : CommandArguments, b.query = a.query ∧
      ∀ es', commandArguments a (.switch name value :: es') = commandArguments b es' := by
  by_cases hhelp : name = "help"
  · subst hhelp
    simp [commandArguments] at h
  by_cases hjson : name = "json"
  · subst hjson
    simp only [commandArguments] at h ⊢
    split at h
    · cases h
    · rename_i hset
      exact ⟨{ a with json := true }, rfl, fun es' => if_neg hset⟩
  by_cases hoffset : name = "offset"
  · subst hoffset
    simp only [commandArguments] at h ⊢
    cases hn : decimal? value.toList with
    | none => simp [hn] at h
    | some n =>
      simp only [hn] at h
      split at h
      · cases h
      · rename_i hset
        exact ⟨{ a with offset := some n }, rfl, fun es' => if_neg hset⟩
  · simp [commandArguments, hhelp, hjson, hoffset] at h

/-- Options of a command set what they set, whatever follows, and not the query. -/
theorem exists_of_commandArguments_append {switches : List Switch} {front : List String}
    {es : List Event} (hfront : Options switches front es) {a a' : CommandArguments}
    {more : List Event} (h : commandArguments a (es ++ more) = some (some a')) :
    ∃ b : CommandArguments, b.query = a.query ∧
      ∀ es', commandArguments a (es ++ es') = commandArguments b es' := by
  induction hfront generalizing a with
  | nil => exact ⟨a, rfl, fun _ => rfl⟩
  | cons _ _ ih =>
    obtain ⟨b, hquery, hb⟩ := exists_of_commandArguments_switch h
    rw [List.cons_append, hb] at h
    obtain ⟨b', hquery', hb'⟩ := ih h
    refine ⟨b', hquery'.trans hquery, fun es' => ?_⟩
    rw [List.cons_append, hb, hb']

/-- Once the query is there, no other one is accepted, and what else is said is the same without
it. -/
theorem commandArguments_without_query {a a' : CommandArguments} {es : List Event}
    (h : commandArguments a es = some (some a')) (hquery : a.query.isSome = true) :
    a'.query = a.query ∧
      commandArguments { a with query := none } es = some (some { a' with query := none }) := by
  fun_induction commandArguments a es with
  | case1 a =>
    cases h
    exact ⟨rfl, rfl⟩
  | case2 a es ih => exact ih h hquery
  | case4 a q rest es hnone => exact absurd hquery hnone
  | case3 | case5 | case6 | case8 | case10 | case11 => cases h
  | case7 a value es hjson ih =>
    obtain ⟨hsame, hrest⟩ := ih h hquery
    refine ⟨hsame, ?_⟩
    simpa [commandArguments, hjson] using hrest
  | case9 a value es n hn hoffset ih =>
    obtain ⟨hsame, hrest⟩ := ih h hquery
    refine ⟨hsame, ?_⟩
    simpa [commandArguments, hn, hoffset] using hrest

/-- The query of a command stands behind options, perhaps also behind `--`; if it is left out, all
else is read as before. -/
theorem exists_commandArguments_without_query {switches : List Switch} {a₀ a : CommandArguments}
    {args : List String} {q : String} (hnone : a₀.query = none)
    (h : commandArguments a₀ (events switches none args) = some (some a))
    (hq : a.query = some q) :
    ∃ as bs, args = as ++ q :: bs ∧
      commandArguments a₀ (events switches none (as ++ bs))
        = some (some { a with query := none }) := by
  obtain ⟨front, es, rest, hfront, rfl, hrest⟩ := exists_options switches args
  rw [hfront.events_append] at h
  obtain ⟨b, hb, hbehind⟩ := exists_of_commandArguments_append hfront h
  rw [hbehind] at h
  have hnoQuery : { b with query := none } = b := by rw [← hnone, ← hb]
  have hset : b.query.isSome = false := by rw [hb, hnone]; rfl
  cases hrest with
  | wrong hwrong =>
    rw [hwrong] at h
    cases h
  | done =>
    cases h
    rw [hb, hnone] at hq
    cases hq
  | escape rest =>
    match rest, h with
    | [], h =>
      cases h
      rw [hb, hnone] at hq
      cases hq
    | [arg], h =>
      -- Behind `--` the query is the last argument, so nothing but `--` is left there.
      simp only [events, if_pos, List.map_cons, List.map_nil, commandArguments] at h
      rw [if_neg (by simp [hset])] at h
      cases h
      cases hq
      refine ⟨front ++ ["--"], [], by simp, ?_⟩
      rw [List.append_nil, hfront.events_append, hbehind, hnoQuery]
      rfl
    | arg :: arg' :: rest, h =>
      simp only [events, if_pos, List.map_cons, commandArguments] at h
      rw [if_neg (by simp [hset])] at h
      cases h
  | @plain arg rest hdash hlooks =>
    have hnot : ¬looksLikeSwitch arg = true := Bool.eq_false_iff.mp hlooks
    rw [events, if_neg hdash, if_neg hnot, commandArguments, if_neg (by simp [hset])] at h
    obtain ⟨hsame, hrest⟩ := commandArguments_without_query h rfl
    rw [hq] at hsame
    cases hsame
    refine ⟨front, rest, rfl, ?_⟩
    rw [hfront.events_append, hbehind, ← hrest, hnoQuery]

/-- The command with a name and arguments. -/
def commandOf? (name : String) (a : CommandArguments) : Option Command :=
  match name with
  | "check" => some (.check a.query a.json)
  | "hover" => a.offset.map (.hover · a.query)
  | _ => some (.complete a.query)

theorem command_eq_some_some_iff {name : String} {args : List String} {c : Command} :
    command name args = some (some c) ↔ ∃ switches a, commandSwitches.lookup name = some switches ∧
      commandArguments ⟨none, none, false⟩ (events switches none args) = some (some a) ∧
        commandOf? name a = some c := by
  unfold command
  cases hswitches : commandSwitches.lookup name with
  | none => simp
  | some switches =>
    cases ha : commandArguments ⟨none, none, false⟩ (events switches none args) with
    | none => simp [ha]
    | some a? =>
      cases a? with
      | none => simp [ha]
      | some a =>
        simp only [Option.bind_eq_bind, Option.bind_some, ha]
        unfold commandOf?
        split <;> simp [ha, Option.bind_eq_some_iff]

theorem query_of_commandOf? {name : String} {a : CommandArguments} {c : Command}
    (h : commandOf? name a = some c) : c.query = a.query := by
  unfold commandOf? at h
  split at h
  · cases h
    rfl
  · obtain ⟨offset, _, rfl⟩ := Option.map_eq_some_iff.mp h
    rfl
  · cases h
    rfl

/-- Without the query among its arguments a command is the same about the input. -/
theorem commandOf?_without_query {name : String} {a : CommandArguments} {c : Command}
    (h : commandOf? name a = some c) :
    commandOf? name { a with query := none } = some (c.withQuery none) := by
  unfold commandOf? at h ⊢
  split at h
  · cases h
    rfl
  · obtain ⟨offset, hoffset, rfl⟩ := Option.map_eq_some_iff.mp h
    exact Option.map_eq_some_iff.mpr ⟨offset, hoffset, rfl⟩
  · cases h
    rfl

/-- If the query of a command is left out of its arguments, they ask for the same about the
input. -/
theorem exists_command_without_query {name : String} {args : List String} {c : Command}
    {q : String} (h : command name args = some (some c)) (hq : c.query = some q) :
    ∃ as bs, args = as ++ q :: bs ∧ command name (as ++ bs) = some (some (c.withQuery none)) := by
  obtain ⟨switches, a, hswitches, ha, hc⟩ := command_eq_some_some_iff.mp h
  rw [query_of_commandOf? hc] at hq
  obtain ⟨as, bs, rfl, hrest⟩ := exists_commandArguments_without_query rfl ha hq
  refine ⟨as, bs, rfl, command_eq_some_some_iff.mpr ?_⟩
  exact ⟨switches, _, hswitches, hrest, commandOf?_without_query hc⟩

/-! ### In front of the name of a command -/

/-- An option of the program sets what it sets, whatever follows: the schema file and nothing else,
or the same whether a schema file is set or not. -/
theorem exists_of_readEvents_switch {config schema database : Option String}
    {name value : String} {es : List Event} {i : Invocation}
    (h : readEvents config schema database (.switch name value :: es) = some (.invocation i)) :
    ∃ config' schema' database',
      (∀ es', readEvents config schema database (.switch name value :: es')
        = readEvents config' schema' database' es') ∧
      (config' = config ∧ database' = database ∨
        ∀ es', readEvents config none database (.switch name value :: es')
          = readEvents config' none database' es') := by
  by_cases hconfig : name = "config"
  · subst hconfig
    rw [readEvents] at h
    split at h
    · cases h
    · rename_i hset
      have hother : ∀ schema es', readEvents config schema database (.switch "config" value :: es')
          = readEvents (some value) schema database es' := by
        intro schema es'
        rw [readEvents, if_neg hset]
      exact ⟨some value, schema, database, hother schema, .inr (hother none)⟩
  by_cases hschema : name = "schema"
  · subst hschema
    rw [readEvents] at h
    split at h
    · cases h
    · rename_i hset
      refine ⟨config, some value, database, fun es' => ?_, .inl ⟨rfl, rfl⟩⟩
      rw [readEvents, if_neg hset]
  by_cases hdatabase : name = "database"
  · subst hdatabase
    rw [readEvents] at h
    split at h
    · cases h
    · rename_i hset
      have hother : ∀ schema es',
          readEvents config schema database (.switch "database" value :: es')
            = readEvents config schema (some value) es' := by
        intro schema es'
        rw [readEvents, if_neg hset]
      exact ⟨config, schema, some value, hother schema, .inr (hother none)⟩
  -- The version and the help end the reading, and nothing else is known.
  · unfold readEvents at h
    split at h <;> simp_all

/-- Options of the program set what they set, whatever follows; some of them set the same but no
schema file. -/
theorem exists_of_readEvents_append {switches : List Switch} {front : List String}
    {es more : List Event} {i : Invocation} (hfront : Options switches front es)
    {config schema database : Option String}
    (h : readEvents config schema database (es ++ more) = some (.invocation i)) :
    ∃ config' schema' database',
      (∀ es', readEvents config schema database (es ++ es')
        = readEvents config' schema' database' es') ∧
      ∃ fewer es₀, fewer.Sublist front ∧ Options switches fewer es₀ ∧
        ∀ es', readEvents config none database (es₀ ++ es')
          = readEvents config' none database' es' := by
  induction hfront generalizing config schema database with
  | nil => exact ⟨config, schema, database, fun _ => rfl, [], [], .slnil, .nil, fun _ => rfl⟩
  | @cons own _ _ _ _ hown _ ih =>
    obtain ⟨config₁, schema₁, database₁, hfirst, hwithout⟩ := exists_of_readEvents_switch h
    rw [List.cons_append, hfirst] at h
    obtain ⟨config₂, schema₂, database₂, hothers, fewer, es₀, hsub, hfewer, hread⟩ := ih h
    refine ⟨config₂, schema₂, database₂, fun es' => ?_, ?_⟩
    · rw [List.cons_append, hfirst, hothers]
    · rcases hwithout with ⟨rfl, rfl⟩ | hkept
      · exact ⟨fewer, es₀, hsub.trans (List.sublist_append_right own _), hfewer, hread⟩
      · refine ⟨own ++ fewer, _, hsub.append_left own, .cons hown hfewer, fun es' => ?_⟩
        rw [List.cons_append, hkept, hread]

/-- **Options of the program do not depend on the command behind them**: if another one stands
there, it is asked for with the same options; and it is asked for without schema file behind fewer
of them. -/
theorem exists_of_read {args : List String} {i : Invocation}
    (h : read args = some (.invocation i)) :
    ∃ front name rest, args = front ++ name :: rest ∧ command name rest = some (some i.command) ∧
      (∀ rest' c, command name rest' = some (some c) →
        read (front ++ name :: rest') = some (.invocation { i with command := c })) ∧
      ∃ fewer, fewer.Sublist front ∧
        read (fewer ++ name :: rest) = some (.invocation { i with schema := none }) := by
  unfold read at h ⊢
  obtain ⟨front, es, behind, hfront, rfl, hbehind⟩ := exists_options mainSwitches args
  rw [hfront.events_append] at h
  obtain ⟨config, schema, database, hread, fewer, es₀, hsub, hfewer, hwithout⟩ :=
    exists_of_readEvents_append hfront h
  rw [hread] at h
  cases hbehind with
  | wrong hwrong =>
    rw [hwrong] at h
    cases h
  | done => cases h
  | escape rest => cases h
  | @plain name rest hdash hlooks =>
    have hnot : ¬looksLikeSwitch name = true := Bool.eq_false_iff.mp hlooks
    have hplain : ∀ rest', events mainSwitches none (name :: rest')
        = .plain name rest' :: events mainSwitches none rest' := by
      intro rest'
      rw [events, if_neg hdash, if_neg hnot]
    rw [hplain, readEvents, readCommand] at h
    by_cases hname : name = "help"
    · rw [if_pos hname] at h
      split at h <;> cases h
    · rw [if_neg hname] at h
      obtain ⟨c?, hc, hi⟩ := Option.map_eq_some_iff.mp h
      cases c? with
      | none => cases hi
      | some c =>
        cases hi
        refine ⟨front, name, rest, rfl, hc, fun rest' c' hc' => ?_, fewer, hsub, ?_⟩
        · rw [hfront.events_append, hread, hplain, readEvents, readCommand, if_neg hname, hc']
          rfl
        · rw [hfewer.events_append, hwithout, hplain, readEvents, readCommand, if_neg hname, hc]
          rfl

/-- **A command line stays one when its schema option is left out**: the same is asked for without
schema file. -/
theorem exists_read_without_schema {args : List String} {i : Invocation}
    (h : read args = some (.invocation i)) :
    ∃ fewer, fewer.Sublist args ∧ read fewer = some (.invocation { i with schema := none }) := by
  obtain ⟨front, name, rest, rfl, -, -, fewer, hsub, hread⟩ := exists_of_read h
  exact ⟨fewer ++ name :: rest, hsub.append_right _, hread⟩

/-- **A command line stays one when its query is left out**: the same is asked for about the
input. -/
theorem exists_read_without_query {args : List String} {i : Invocation} {q : String}
    (h : read args = some (.invocation i)) (hq : i.command.query = some q) :
    ∃ as bs, args = as ++ q :: bs ∧ read (as ++ bs) = some (.invocation (i.withQuery none)) := by
  obtain ⟨front, name, rest, rfl, hcommand, hread, -⟩ := exists_of_read h
  obtain ⟨as, bs, rfl, hwithout⟩ := exists_command_without_query hcommand hq
  refine ⟨front ++ name :: as, bs, by simp, ?_⟩
  rw [List.append_assoc, List.cons_append]
  exact hread _ _ hwithout

end SqlAnalysis.CommandLine
