import Mathlib.Data.List.MinMax
import SqlAnalysis.Proofs.Text.EditDistance
import SqlAnalysis.Suggestion

/-!
# The closest candidate

The search for a suggestion keeps the best candidate so far, and gives up looking at the first one
at distance zero.  Leaving early changes nothing: nothing can be strictly closer.  So the search
finds what a search through all candidates finds, the first one at the least distance.

## Main definitions

* `caselessDistance` — the least number of edits between the lower-case forms of two words.
* `scanFrom` — the search through all candidates.
* `FirstClosest` — a candidate is the first one at the least distance.

## Main results

* `suggestFrom_eq_scanFrom` — leaving early changes nothing.
* `scanFrom_eq_argmin` — the search through all candidates, with those that it has seen.
* `suggest_eq_argmin` — **a suggestion is the first of the closest candidates.**
* `correction_eq_some_iff` — a correction is the suggestion, unless it is the word itself.
* `suggest_eq_some_iff` — a suggestion is closer than all candidates in front of it, and none is
  closer than it.
* `suggest_isFirstClosest` — **the search ends with the first closest candidate of the whole list.**
-/

namespace SqlAnalysis

open Text Unicode

/-- The least number of insertions, deletions and replacements of one character between the
lower-case forms of two words. -/
noncomputable def caselessDistance (a b : String) : Nat :=
  levenshtein (lower a.toList) (lower b.toList)

theorem wordDistance_eq (a b : String) : wordDistance a b = caselessDistance a b :=
  editDistance_eq_levenshtein _ _

/-! ### The search -/

variable {word : String}

/-- The search that looks at all candidates: the closest of `best`, which is at the distance given
beside it, and the candidates. -/
def scanFrom (word : String) : Option (Nat × String) → List String → Option String
  | best, [] => best.map (·.2)
  | best, c :: cs =>
    let d := wordDistance word c
    if best.all (d < ·.1) then scanFrom word (some (d, c)) cs else scanFrom word best cs

/-- A candidate at distance zero is never replaced. -/
theorem scanFrom_of_zero (c : String) (cs : List String) :
    scanFrom word (some (0, c)) cs = some c := by
  induction cs with
  | nil => rfl
  | cons x cs ih =>
    rw [scanFrom]
    simpa using ih

/-- Leaving early changes nothing, as long as the best candidate so far is not at distance zero. -/
theorem suggestFrom_eq_scanFrom {best : Option (Nat × String)} (hbest : ∀ b ∈ best, b.1 ≠ 0)
    (cs : List String) : suggestFrom word best cs = scanFrom word best cs := by
  induction cs generalizing best with
  | nil => rfl
  | cons c cs ih =>
    rw [suggestFrom, scanFrom]
    by_cases hzero : wordDistance word c = 0
    · -- the candidate is strictly closer than the best one, and stays
      have hcloser : best.all (fun b => 0 < b.1) = true := by
        simpa [Option.all_eq_true, Nat.pos_iff_ne_zero] using hbest
      rw [if_pos hzero, hzero, if_pos hcloser, scanFrom_of_zero]
    · have hnext : ∀ b ∈ some (wordDistance word c, c), b.1 ≠ 0 := by
        intro b hb
        exact Option.mem_some_iff.mp hb ▸ hzero
      rw [if_neg hzero, ih hnext, ih hbest]

/-- The search through all candidates goes on with the closest of those it has seen, and finds the
closest of all. -/
theorem scanFrom_eq_argmin (seen cs : List String) :
    scanFrom word ((seen.argmin (wordDistance word)).map fun b => (wordDistance word b, b)) cs
      = (seen ++ cs).argmin (wordDistance word) := by
  induction cs generalizing seen with
  | nil =>
    rw [scanFrom, Option.map_map, List.append_nil]
    exact Option.map_id'
  | cons c cs ih =>
    -- the candidate joins those that have been seen
    have hrest := ih (seen ++ [c])
    rw [List.append_assoc, List.singleton_append, List.argmin_concat] at hrest
    rw [scanFrom, ← hrest]
    cases hbest : seen.argmin (wordDistance word) with
    | none => rfl
    | some b =>
      by_cases hcloser : wordDistance word c < wordDistance word b
      · simp [hcloser]
      · simp [hcloser]

/-- The search for a suggestion finds what a search through all candidates finds. -/
theorem suggest_eq_scanFrom (word : String) (candidates : List String) :
    suggest word candidates = scanFrom word none candidates :=
  suggestFrom_eq_scanFrom (by simp) candidates

/-- **A suggestion is the first of the candidates at the least distance.** -/
theorem suggest_eq_argmin (word : String) (candidates : List String) :
    suggest word candidates = candidates.argmin (caselessDistance word) := by
  have hdistance : wordDistance word = caselessDistance word := funext (wordDistance_eq word)
  rw [suggest_eq_scanFrom, ← hdistance]
  exact scanFrom_eq_argmin [] candidates

/-- A correction is the suggestion, unless it differs from the word at most in ASCII case. -/
theorem correction_eq_some_iff {candidates : List String} {c : String} :
    correction word candidates = some c ↔
      c ∈ candidates.argmin (caselessDistance word) ∧
        eqIgnoreAsciiCase c.toList word.toList = false := by
  rw [correction, suggest_eq_argmin, Option.filter_eq_some_iff, Bool.not_eq_true']
  rfl

/-! ### Among all candidates -/

/-- The candidate `c` stands at the position `k`, none is closer to the word, and those in front of
it are farther away. -/
structure FirstClosest (word : String) (candidates : List String) (k : Nat) (c : String) :
    Prop where
  /-- It stands at the position. -/
  stands : candidates[k]? = some c
  /-- No candidate is closer. -/
  closest : ∀ b ∈ candidates, caselessDistance word c ≤ caselessDistance word b
  /-- Those in front of it are not as close. -/
  first : ∀ j < k, ∀ b, candidates[j]? = some b → caselessDistance word c < caselessDistance word b

theorem suggest_eq_none_iff {candidates : List String} :
    suggest word candidates = none ↔ candidates = [] := by
  rw [suggest_eq_argmin, List.argmin_eq_none]

/-- A word stands at its position, or further in front. -/
theorem idxOf_le_of_getElem? {l : List String} {k : Nat} {c : String} (h : l[k]? = some c) :
    l.idxOf c ≤ k := by
  have htake : (l.take (k + 1))[k]? = some c := by
    rw [List.getElem?_take_of_lt k.lt_succ_self, h]
  have hlt := (List.mem_take_iff_idxOf_lt (List.mem_of_getElem? h)).mp (List.mem_of_getElem? htake)
  exact Nat.le_of_lt_succ hlt

/-- A suggestion is the first closest candidate, and the first closest candidate is suggested. -/
theorem suggest_eq_some_iff {candidates : List String} {c : String} :
    suggest word candidates = some c ↔ ∃ k, FirstClosest word candidates k c := by
  rw [suggest_eq_argmin, ← Option.mem_def, List.mem_argmin_iff]
  constructor
  · rintro ⟨hmem, hclosest, hfirst⟩
    refine ⟨candidates.idxOf c, List.getElem?_idxOf hmem, hclosest, fun j hj b hb => ?_⟩
    by_contra hfar
    have hle := hfirst b (List.mem_of_getElem? hb) (Nat.le_of_not_lt hfar)
    have := idxOf_le_of_getElem? hb
    omega
  · rintro ⟨k, hk⟩
    refine ⟨List.mem_of_getElem? hk.stands, hk.closest, fun b hb hle => ?_⟩
    have hback : k ≤ candidates.idxOf b := by
      by_contra hfront
      have hfar := hk.first _ (Nat.lt_of_not_le hfront) b (List.getElem?_idxOf hb)
      omega
    exact (idxOf_le_of_getElem? hk.stands).trans hback

/-- Further candidates leave the suggestion as it is, or one of them is strictly closer. -/
theorem suggest_append (word : String) (candidates more : List String) :
    suggest word (candidates ++ more) = suggest word candidates ∨
      ∃ d ∈ more, suggest word (candidates ++ more) = some d ∧
        ∀ c ∈ suggest word candidates, caselessDistance word d < caselessDistance word c := by
  cases hall : suggest word (candidates ++ more) with
  | none =>
    obtain ⟨hnil, -⟩ := List.append_eq_nil_iff.mp (suggest_eq_none_iff.mp hall)
    exact .inl (suggest_eq_none_iff.mpr hnil).symm
  | some d =>
    obtain ⟨k, hd⟩ := suggest_eq_some_iff.mp hall
    have hstands := hd.stands
    by_cases hk : k < candidates.length
    · -- it was there before, and is the first closest one of the shorter list as well
      rw [List.getElem?_append_left hk] at hstands
      refine .inl (suggest_eq_some_iff.mpr ⟨k, hstands, fun b hb => ?_, fun j hj b hb => ?_⟩).symm
      · exact hd.closest b (List.mem_append_left more hb)
      · exact hd.first j hj b (by rwa [List.getElem?_append_left (hj.trans hk)])
    · rw [List.getElem?_append_right (Nat.le_of_not_lt hk)] at hstands
      refine .inr ⟨d, List.mem_of_getElem? hstands, rfl, fun c hc => ?_⟩
      obtain ⟨j, hj⟩ := suggest_eq_some_iff.mp hc
      obtain ⟨hlt, -⟩ := List.getElem?_eq_some_iff.mp hj.stands
      exact hd.first j (by omega) c (by rw [List.getElem?_append_left hlt, hj.stands])

/-- **The search ends with the first closest candidate of the whole list.**  There is no suggestion
exactly if there are no candidates; otherwise it is the first candidate at the least distance.  The
search that looks at all candidates finds the same one, and further candidates replace it only by
one of them that is strictly closer. -/
theorem suggest_isFirstClosest (word : String) (candidates : List String) :
    (suggest word candidates = none ↔ candidates = []) ∧
    (∀ c, suggest word candidates = some c ↔ ∃ k, FirstClosest word candidates k c) ∧
    suggest word candidates = scanFrom word none candidates ∧
    ∀ more, suggest word (candidates ++ more) = suggest word candidates ∨
      ∃ d ∈ more, suggest word (candidates ++ more) = some d ∧
        ∀ c ∈ suggest word candidates, caselessDistance word d < caselessDistance word c :=
  ⟨suggest_eq_none_iff, fun _ => suggest_eq_some_iff, suggest_eq_scanFrom word candidates,
    suggest_append word candidates⟩

/-- Of two candidates at the same distance the first one is suggested, and a candidate behind them
that differs from the word in case only takes its place. -/
theorem suggest_isFirstClosest_replaced :
    let candidates := ["users", "user", "use"]
    suggest "usr" candidates = some "user" ∧ (∃ k, FirstClosest "usr" candidates k "user") ∧
      scanFrom "usr" none candidates = some "user" ∧
        suggest "usr" (candidates ++ ["uses", "USR"]) = some "USR" ∧
          caselessDistance "usr" "USR" < caselessDistance "usr" "user" := by
  intro candidates
  obtain ⟨-, hsome, hscan, happend⟩ := suggest_isFirstClosest "usr" candidates
  have huser : suggest "usr" candidates = some "user" := by decide +kernel
  have hall : suggest "usr" (candidates ++ ["uses", "USR"]) = some "USR" := by decide +kernel
  refine ⟨huser, (hsome _).mp huser, hscan ▸ huser, hall, ?_⟩
  rcases happend ["uses", "USR"] with hsame | ⟨d, -, hd, hcloser⟩
  · rw [hall, huser] at hsame
    exact absurd hsame (by decide)
  · obtain rfl : d = "USR" := Option.some.inj (hd.symm.trans hall)
    exact hcloser "user" huser

end SqlAnalysis
