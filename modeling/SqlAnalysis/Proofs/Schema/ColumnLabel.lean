import SqlAnalysis.ColumnType
import SqlAnalysis.Proofs.Text.Split

/-!
# Column types and their labels

A label is read leniently: blanks, case, a second parameter and whatever follows the parentheses do
not matter, and a parenthesis may be missing.  A type is written in one form.  So writing does not
lead back to the label, but it leads back to the type, as long as the type can come from a label at
all: a width fits into 64 bits, a label that names no known type has no blanks around it, and a
member is a text between commas without the quotes around it.

## Main definitions

* `typeName`, `arguments` — the two parts of a label that matter.
* `Reads` — what a label is read as.
* `IsMember`, `IsNormal` — the members and types that labels can give.

## Main results

* `ofLabel_eq_iff` — the reader follows `Reads`.
* `isNormal_ofLabel` — what is read is in normal form.
* `ofLabel_label_eq_self_iff` — **a type is read back from its label exactly if it is in normal
  form.**
* `ofLabel_label_ofLabel` — **writing and reading again changes nothing.**
* `ofLabel_label_choice_iff` — **members are read back exactly if none of them holds a comma.**
-/

namespace SqlAnalysis.ColumnType

open Text Unicode

/-! ### What a label says -/

/-- The name that a label begins with, in lower case. -/
def typeName (l : String) : String :=
  String.ofList (asciiLower (firstWord (parts (trim l.toList)).1))

/-- What the parentheses of a label hold. -/
def arguments (l : String) : List Char :=
  (parts (trim l.toList)).2

/-- No type has this name. -/
structure Unknown (name : String) : Prop where
  /-- None with a width. -/
  sized : ∀ kind : Sized, kind.name ≠ name
  /-- None without parameters. -/
  plain : ∀ kind : Plain, kind.name ≠ name
  /-- None with members. -/
  choice : ∀ kind : Choice, kind.name ≠ name

/-- What a label is read as: the name in front decides, and what the parentheses hold is a width or
members. -/
inductive Reads (l : String) : ColumnType → Prop
  | sized (kind : Sized) (hname : kind.name = typeName l) :
    Reads l (.sized kind (width? (arguments l)))
  | plain (kind : Plain) (hname : kind.name = typeName l) : Reads l (.plain kind)
  | choice (kind : Choice) (hname : kind.name = typeName l) :
    Reads l (.choice kind (members (arguments l)))
  | other (hname : Unknown (typeName l)) : Reads l (.other (String.ofList (trim l.toList)))

theorem Sized.mem_all (kind : Sized) : kind ∈ Sized.all := by
  cases kind <;> decide

theorem Plain.mem_all (kind : Plain) : kind ∈ Plain.all := by
  cases kind <;> decide

theorem Choice.mem_all (kind : Choice) : kind ∈ Choice.all := by
  cases kind <;> decide

/-- The name of a kind leads back to the kind. -/
theorem Sized.find?_name (kind : Sized) : Sized.all.find? (·.name == kind.name) = some kind := by
  cases kind <;> rfl

theorem Plain.find?_name (kind : Plain) : Plain.all.find? (·.name == kind.name) = some kind := by
  cases kind <;> rfl

theorem Choice.find?_name (kind : Choice) : Choice.all.find? (·.name == kind.name) = some kind := by
  cases kind <;> rfl

/-- A type without parameters is not called like one with a width. -/
theorem Plain.find?_sized (kind : Plain) : Sized.all.find? (·.name == kind.name) = none := by
  cases kind <;> rfl

theorem Choice.find?_sized (kind : Choice) : Sized.all.find? (·.name == kind.name) = none := by
  cases kind <;> rfl

theorem Choice.find?_plain (kind : Choice) : Plain.all.find? (·.name == kind.name) = none := by
  cases kind <;> rfl

/-- The reader looks among the types with a width first, and among those with members last. -/
theorem ofLabel_eq (l : String) :
    ofLabel l =
      (((Sized.all.find? (·.name == typeName l)).map fun kind =>
          sized kind (width? (arguments l))).or
        (((Plain.all.find? (·.name == typeName l)).map plain).or
          ((Choice.all.find? (·.name == typeName l)).map fun kind =>
            choice kind (members (arguments l))))).getD
        (other (String.ofList (trim l.toList))) := by
  unfold ofLabel typeName arguments
  dsimp only
  generalize String.ofList (asciiLower (firstWord (parts (trim l.toList)).1)) = name
  cases Sized.all.find? (·.name == name) with
  | some kind => rfl
  | none =>
    cases Plain.all.find? (·.name == name) with
    | some kind => rfl
    | none => cases Choice.all.find? (·.name == name) <;> rfl

/-- Every label is read as `Reads` says. -/
theorem reads_ofLabel (l : String) : Reads l (ofLabel l) := by
  rw [ofLabel_eq]
  cases hsized : Sized.all.find? (·.name == typeName l) with
  | some kind => exact .sized kind (by simpa using List.find?_some hsized)
  | none =>
    cases hplain : Plain.all.find? (·.name == typeName l) with
    | some kind => exact .plain kind (by simpa using List.find?_some hplain)
    | none =>
      cases hchoice : Choice.all.find? (·.name == typeName l) with
      | some kind => exact .choice kind (by simpa using List.find?_some hchoice)
      | none =>
        rw [List.find?_eq_none] at hsized hplain hchoice
        exact .other
          ⟨fun kind => by simpa using hsized kind kind.mem_all,
            fun kind => by simpa using hplain kind kind.mem_all,
            fun kind => by simpa using hchoice kind kind.mem_all⟩

/-- **The reader follows `Reads`.** -/
theorem ofLabel_eq_iff {l : String} {t : ColumnType} : ofLabel l = t ↔ Reads l t := by
  constructor
  · rintro rfl
    exact reads_ofLabel l
  · intro h
    rw [ofLabel_eq]
    cases h with
    | sized kind hname =>
      rw [← hname, kind.find?_name]
      rfl
    | plain kind hname =>
      rw [← hname, kind.find?_sized, kind.find?_name]
      rfl
    | choice kind hname =>
      rw [← hname, kind.find?_sized, kind.find?_plain, kind.find?_name]
      rfl
    | other hname =>
      have hsized : Sized.all.find? (·.name == typeName l) = none :=
        List.find?_eq_none.mpr fun kind _ => by simpa using hname.sized kind
      have hplain : Plain.all.find? (·.name == typeName l) = none :=
        List.find?_eq_none.mpr fun kind _ => by simpa using hname.plain kind
      have hchoice : Choice.all.find? (·.name == typeName l) = none :=
        List.find?_eq_none.mpr fun kind _ => by simpa using hname.choice kind
      rw [hsized, hplain, hchoice]
      rfl

/-! ### Labels that are put together -/

/-- A text that can stand in front of a parenthesis and is then read as it is. -/
structure IsTypeName (name : String) : Prop where
  /-- It is not empty. -/
  ne_nil : name.toList ≠ []
  /-- No character of it is a blank, a parenthesis or a capital letter. -/
  plain : ∀ c ∈ name.toList, isBlank c = false ∧ c ≠ '(' ∧ asciiLowerChar c = c

theorem isTypeName_of_all {name : String} (hne : name.toList ≠ [])
    (hall : name.toList.all fun c => !isBlank c && (c != '(' && asciiLowerChar c == c)) :
    IsTypeName name :=
  ⟨hne, fun c hc => by simpa using List.all_eq_true.mp hall c hc⟩

theorem Sized.isTypeName (kind : Sized) : IsTypeName kind.name := by
  cases kind <;> exact isTypeName_of_all (by decide) (by decide)

theorem Plain.isTypeName (kind : Plain) : IsTypeName kind.name := by
  cases kind <;> exact isTypeName_of_all (by decide) (by decide)

theorem Choice.isTypeName (kind : Choice) : IsTypeName kind.name := by
  cases kind <;> exact isTypeName_of_all (by decide) (by decide)

section

variable {name : String}

theorem IsTypeName.firstWord (h : IsTypeName name) : firstWord name.toList = name.toList := by
  have hfront : ∀ c ∈ name.toList.head?, isBlank c = false :=
    fun c hc => (h.plain c (List.mem_of_mem_head? hc)).1
  have hdrop : name.toList.dropWhile isBlank = name.toList :=
    dropWhile_append_of_class (a := []) (by simp) hfront
  have htake := takeWhile_append_of_class (p := (!isBlank ·)) (a := name.toList) (r := [])
    (fun c hc => by simp [(h.plain c hc).1]) (by simp)
  rw [ColumnType.firstWord, hdrop]
  simpa using htake

theorem IsTypeName.asciiLower (h : IsTypeName name) : asciiLower name.toList = name.toList :=
  (List.map_congr_left fun c hc => (h.plain c hc).2.2).trans (List.map_id _)

/-- The label that puts parentheses behind a name. -/
def written (name : String) (args : List Char) : String :=
  String.ofList (name.toList ++ '(' :: (args ++ [')']))

/-- There are no blanks around such a label. -/
theorem IsTypeName.trim_written (h : IsTypeName name) (args : List Char) :
    trim (written name args).toList = name.toList ++ '(' :: (args ++ [')']) := by
  obtain ⟨c, r, hname⟩ := List.exists_cons_of_ne_nil h.ne_nil
  have hfront : isBlank c = false := (h.plain c (hname ▸ List.mem_cons_self)).1
  have hbare : Bare isBlank (name.toList ++ '(' :: (args ++ [')'])) := by
    have hclose : isBlank ')' = false := by decide +kernel
    simpa [hname] using bare_cons_append hfront hclose (r ++ '(' :: args)
  rw [written, String.toList_ofList]
  exact trimMatching_eq_self_iff.mpr hbare

theorem IsTypeName.parts_written (h : IsTypeName name) (args : List Char) :
    parts (trim (written name args).toList) = (name.toList, args) := by
  have hfront : '(' ∉ name.toList := fun hmem => (h.plain _ hmem).2.1 rfl
  rw [h.trim_written, parts, cutFirst?_append_cons hfront]
  simp only [cutLast?_append_cons (List.not_mem_nil)]

theorem IsTypeName.typeName_written (h : IsTypeName name) (args : List Char) :
    typeName (written name args) = name := by
  rw [typeName, h.parts_written, h.firstWord, h.asciiLower, String.ofList_toList]

theorem IsTypeName.arguments_written (h : IsTypeName name) (args : List Char) :
    arguments (written name args) = args := by
  rw [arguments, h.parts_written]

/-- A name is read without parentheses too. -/
theorem IsTypeName.parts_trim (h : IsTypeName name) : parts (trim name.toList) = (name.toList, []) := by
  have hbare : Bare isBlank name.toList :=
    ⟨fun c hc => (h.plain c (List.mem_of_mem_head? hc)).1,
      fun c hc => (h.plain c (List.mem_of_getLast? hc)).1⟩
  have hfront : '(' ∉ name.toList := fun hmem => (h.plain _ hmem).2.1 rfl
  have htrim : trim name.toList = name.toList := trimMatching_eq_self_iff.mpr hbare
  rw [htrim, parts, cutFirst?_eq_none hfront]

theorem IsTypeName.typeName_self (h : IsTypeName name) : typeName name = name := by
  rw [typeName, h.parts_trim, h.firstWord, h.asciiLower, String.ofList_toList]

theorem IsTypeName.arguments_self (h : IsTypeName name) : arguments name = [] := by
  rw [arguments, h.parts_trim]

end

/-! ### Members -/

/-- A quote that is taken off the ends of a member. -/
def isQuote (c : Char) : Bool :=
  c = '\'' || c = '"'

/-- A text between commas, without the quotes around it. -/
structure IsMember (m : String) : Prop where
  /-- It is not empty. -/
  ne_empty : m ≠ ""
  /-- It neither begins nor ends with a quote. -/
  bare : Bare isQuote m.toList
  /-- It does not hold a comma. -/
  no_comma : ',' ∉ m.toList

/-- A member as it is written. -/
def quoted (m : String) : List Char :=
  '\'' :: (m.toList ++ ['\''])

theorem members_eq (args : List Char) :
    members args =
      (((splitAt ',' args).map fun m => trimMatching isQuote (trim m)).filter
        (!·.isEmpty)).map String.ofList :=
  rfl

/-- What is read as a member is one. -/
theorem isMember_of_mem_members {args : List Char} {m : String} (h : m ∈ members args) :
    IsMember m := by
  simp only [members_eq, List.mem_map, List.mem_filter] at h
  obtain ⟨_, ⟨⟨piece, hpiece, rfl⟩, hne⟩, rfl⟩ := h
  refine ⟨?_, ?_, ?_⟩
  · intro hempty
    rw [String.ofList_eq_empty_iff.mp hempty] at hne
    cases hne
  · rw [String.toList_ofList]
    exact bare_trimMatching isQuote (trim piece)
  · rw [String.toList_ofList]
    intro hcomma
    exact notMem_of_mem_splitAt hpiece (mem_of_mem_trimMatching (mem_of_mem_trimMatching hcomma))

/-- A comma separates the members on both sides. -/
theorem members_append_cons (a b : List Char) :
    members (a ++ ',' :: b) = members a ++ members b := by
  simp only [members_eq, splitAt_eq_splitOn, List.splitOn_append_cons_self, List.map_append,
    List.filter_append]

/-- What is read from a list that is written, member by member. -/
theorem members_intercalate (ms : List String) :
    members ([','].intercalate (ms.map quoted)) = ms.flatMap fun m => members (quoted m) := by
  induction ms with
  | nil => rfl
  | cons m ms ih =>
    cases ms with
    | nil => simp
    | cons n ms =>
      rw [List.map_cons, List.map_cons, List.intercalate_cons_cons, ← List.map_cons,
        List.append_assoc, List.singleton_append, members_append_cons, ih]
      rfl

/-- **A member that is written between quotes is read as itself.** -/
theorem members_quoted {m : String} (h : IsMember m) : members (quoted m) = [m] := by
  have hcomma : ',' ∉ quoted m := by
    simp [quoted, h.no_comma]
  have hblank : isBlank '\'' = false := by decide +kernel
  have htrim : trim (quoted m) = quoted m :=
    trimMatching_eq_self_iff.mpr (bare_cons_append hblank hblank m.toList)
  have hquotes : trimMatching isQuote (quoted m) = m.toList :=
    trimMatching_enclosed ['\''] ['\''] (by simp [isQuote]) (by simp [isQuote]) h.bare
  have hne : m.toList ≠ [] := fun hnil => h.ne_empty (String.toList_eq_nil_iff.mp hnil)
  rw [members_eq, splitAt_eq_splitOn, List.splitOn_eq_singleton hcomma, List.map_singleton, htrim,
    hquotes]
  simp [hne]

/-- **A list of texts is read back as it was written exactly if they are members.** -/
theorem members_intercalate_eq_self_iff {ms : List String} :
    members ([','].intercalate (ms.map quoted)) = ms ↔ ∀ m ∈ ms, IsMember m := by
  constructor
  · intro h m hm
    rw [← h] at hm
    exact isMember_of_mem_members hm
  · intro h
    rw [members_intercalate]
    induction ms with
    | nil => rfl
    | cons m ms ih =>
      obtain ⟨hm, hms⟩ := List.forall_mem_cons.mp h
      rw [List.flatMap_cons, members_quoted hm, ih hms, List.singleton_append]

/-! ### Types in normal form -/

/-- A type that a label can name. -/
inductive IsNormal : ColumnType → Prop
  | sized (kind : Sized) {width : Option Nat} (hwidth : ∀ w ∈ width, w < numberLimit) :
    IsNormal (.sized kind width)
  | plain (kind : Plain) : IsNormal (.plain kind)
  | choice (kind : Choice) {ms : List String} (hms : ∀ m ∈ ms, IsMember m) :
    IsNormal (.choice kind ms)
  | other {l : String} (hl : Bare isBlank l.toList) (hname : Unknown (typeName l)) :
    IsNormal (.other l)

theorem lt_of_width? {args : List Char} {w : Nat} (h : width? args = some w) : w < numberLimit := by
  obtain ⟨first, -, hfirst⟩ := Option.bind_eq_some_iff.mp h
  exact lt_of_decimal? hfirst

theorem Reads.isNormal {l : String} {t : ColumnType} (h : Reads l t) : IsNormal t := by
  cases h with
  | sized kind hname => exact .sized kind fun w hw => lt_of_width? hw
  | plain kind hname => exact .plain kind
  | choice kind hname => exact .choice kind fun m hm => isMember_of_mem_members hm
  | other hname =>
    have hbare : Bare isBlank (trim l.toList) := bare_trimMatching isBlank l.toList
    have htrim : trim (trim l.toList) = trim l.toList := trimMatching_eq_self_iff.mpr hbare
    refine .other (by rwa [String.toList_ofList]) ?_
    rw [typeName, String.toList_ofList, htrim]
    exact hname

/-- **What is read is in normal form.** -/
theorem isNormal_ofLabel (l : String) : IsNormal (ofLabel l) :=
  (reads_ofLabel l).isNormal

/-! ### Reading what was written -/

theorem label_sized_some (kind : Sized) (w : Nat) :
    (sized kind (some w)).label = written kind.name (Nat.toDigits 10 w) := by
  refine String.toList_injective ?_
  simp [label, written, Nat.toList_repr]

theorem label_choice (kind : Choice) (ms : List String) :
    (choice kind ms).label = written kind.name ([','].intercalate (ms.map quoted)) := by
  have hquoted : ms.map (String.toList ∘ fun m => "'" ++ m ++ "'") = ms.map quoted :=
    List.map_congr_left fun m _ => by simp [quoted]
  refine String.toList_injective ?_
  simp [label, written, String.toList_intercalate, hquoted]

theorem width?_toDigits {w : Nat} (hw : w < numberLimit) : width? (Nat.toDigits 10 w) = some w := by
  have hdigit : ∀ c ∈ Nat.toDigits 10 w, isAsciiDigit c := fun _ => isAsciiDigit_of_mem_toDigits
  have hcomma : ',' ∉ Nat.toDigits 10 w := fun hmem => absurd (hdigit _ hmem) (by decide)
  have hblank : ∀ c ∈ Nat.toDigits 10 w, isBlank c = false := fun c hc =>
    isBlank_eq_false_of_isWordChar (isWordChar_of_isAsciiDigit (hdigit c hc))
  have htrim : trim (Nat.toDigits 10 w) = Nat.toDigits 10 w :=
    trimMatching_eq_self_iff.mpr
      ⟨fun c hc => hblank c (List.mem_of_mem_head? hc),
        fun c hc => hblank c (List.mem_of_getLast? hc)⟩
  rw [width?, splitAt_eq_splitOn, List.splitOn_eq_singleton hcomma]
  change decimal? (trim (Nat.toDigits 10 w)) = some w
  rw [htrim, decimal?_toDigits hw]

/-- The label of a list type is read as what its members are read as, one by one. -/
theorem ofLabel_label_choice (kind : Choice) (ms : List String) :
    ofLabel (choice kind ms).label
      = choice kind (members ([','].intercalate (ms.map quoted))) := by
  have hname : kind.name = typeName (choice kind ms).label := by
    rw [label_choice, kind.isTypeName.typeName_written]
  rw [ofLabel_eq_iff.mpr (.choice kind hname), label_choice, kind.isTypeName.arguments_written]

/-- The label of a type in normal form says what the type is. -/
theorem IsNormal.ofLabel_label {t : ColumnType} (h : IsNormal t) : ofLabel t.label = t := by
  cases h with
  | @sized kind width hwidth =>
    cases width with
    | none =>
      have hname : kind.name = typeName kind.name := kind.isTypeName.typeName_self.symm
      rw [label, ofLabel_eq_iff.mpr (.sized kind hname), kind.isTypeName.arguments_self]
      rfl
    | some w =>
      have hname : kind.name = typeName (ColumnType.sized kind (some w)).label := by
        rw [label_sized_some, kind.isTypeName.typeName_written]
      rw [ofLabel_eq_iff.mpr (.sized kind hname), label_sized_some,
        kind.isTypeName.arguments_written, width?_toDigits (hwidth w rfl)]
  | plain kind => exact ofLabel_eq_iff.mpr (.plain kind kind.isTypeName.typeName_self.symm)
  | choice kind hms => rw [ofLabel_label_choice, members_intercalate_eq_self_iff.mpr hms]
  | @other l hl hname =>
    have htrim : trim l.toList = l.toList := trimMatching_eq_self_iff.mpr hl
    rw [label, ofLabel_eq_iff.mpr (.other hname), htrim, String.ofList_toList]

/-- **A type is read back from its label exactly if it is in normal form.** -/
theorem ofLabel_label_eq_self_iff {t : ColumnType} : ofLabel t.label = t ↔ IsNormal t :=
  ⟨fun h => h ▸ isNormal_ofLabel t.label, IsNormal.ofLabel_label⟩

/-- **Writing and reading again changes nothing.**  Whatever label a type was read from, with any
blanks, case, parentheses and modifiers, the label that it is written as is read as the same type,
and so stands for the same values. -/
theorem ofLabel_label_ofLabel (l : String) :
    ofLabel (ofLabel l).label = ofLabel l ∧
      valueTypeOfLabel (ofLabel l).label = valueTypeOfLabel l := by
  have hread : ofLabel (ofLabel l).label = ofLabel l := (isNormal_ofLabel l).ofLabel_label
  exact ⟨hread, congrArg valueType hread⟩

example : (ofLabel " Enum ( 'it''s' , \"(x)\", ) null").label = "enum('it''s','(x)')" := by
  decide +kernel

/-- **Members are read back exactly if none of them holds a comma**: the same ones, in the same order
and number, as long as none is empty and none begins or ends with a quote. -/
theorem ofLabel_label_choice_iff {ms : List String}
    (hms : ∀ m ∈ ms, m ≠ "" ∧ Bare isQuote m.toList) (kind : Choice) :
    ofLabel (choice kind ms).label = choice kind ms ↔ ∀ m ∈ ms, ',' ∉ m.toList := by
  rw [ofLabel_label_eq_self_iff]
  constructor
  · rintro (_ | _ | ⟨_, hmembers⟩ | _) m hm
    exact (hmembers m hm).no_comma
  · intro hcomma
    exact .choice kind fun m hm => ⟨(hms m hm).1, (hms m hm).2, hcomma m hm⟩

/-- Blanks, parentheses and quotes inside do no harm. -/
theorem ofLabel_label_choice_kept :
    let ms := ["a b", " (x) ", "it's", ")\"("]
    (∀ m ∈ ms, m ≠ "" ∧ Bare isQuote m.toList) ∧
      ofLabel (choice .set ms).label = choice .set ms := by
  intro ms
  have hms : ∀ m ∈ ms, m ≠ "" ∧ Bare isQuote m.toList := by decide +kernel
  exact ⟨hms, (ofLabel_label_choice_iff hms .set).mpr (by decide)⟩

/-- A comma inside a member cuts it in two. -/
theorem ofLabel_label_choice_lost :
    let ms := ["a,b"]
    (∀ m ∈ ms, m ≠ "" ∧ Bare isQuote m.toList) ∧
      ofLabel (choice .enum ms).label = choice .enum ["a", "b"] ∧
      ofLabel (choice .enum ms).label ≠ choice .enum ms := by
  intro ms
  refine ⟨by decide +kernel, by decide +kernel, by decide +kernel⟩

end SqlAnalysis.ColumnType
