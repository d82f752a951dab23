import SqlAnalysis.Sql.Collection

/-!
# Visited operands

A comparison counts only for a column that is referred to as well.  Reading a statement visits
the operands of every comparison, so the column of a comparison always is.

## Main definitions

* `OperandsVisited` — the left operand of every visited comparison is visited too.

## Main results

* `operandsVisited_visitsAll` — **reading a statement visits the operands of comparisons.**
* `OperandsVisited.reference_mem` — the column of a comparison is referred to.
-/

namespace SqlAnalysis.Sql

/-- The left operand of every visited comparison is visited too. -/
def OperandsVisited (visits : List Part) : Prop :=
  ∀ op l r, Part.expr (.comparison op l r) ∈ visits → Part.expr l ∈ visits

theorem mem_visits (e : Expr) : Part.expr e ∈ e.visits := by
  cases e <;> simp [Expr.visits]

/-- A part that is no comparison has no operands. -/
theorem OperandsVisited.cons {p : Part} (hp : ∀ op l r, p ≠ .expr (.comparison op l r))
    {visits : List Part} (h : OperandsVisited visits) : OperandsVisited (p :: visits) := by
  intro op l r hmem
  rcases List.mem_cons.mp hmem with heq | hmem
  · exact absurd heq.symm (hp op l r)
  · exact List.mem_cons_of_mem p (h op l r hmem)

theorem OperandsVisited.append {a b : List Part} (ha : OperandsVisited a)
    (hb : OperandsVisited b) : OperandsVisited (a ++ b) := by
  intro op l r hmem
  rcases List.mem_append.mp hmem with hmem | hmem
  · exact List.mem_append_left b (ha op l r hmem)
  · exact List.mem_append_right a (hb op l r hmem)

theorem operandsVisited_nil : OperandsVisited [] :=
  fun _ _ _ h => absurd h List.not_mem_nil

mutual

/-- In reading order, the operands of a comparison are visited right behind it. -/
theorem operandsVisited_expr : (e : Expr) → OperandsVisited e.visits
  | .column path => operandsVisited_nil.cons (by simp)
  | .value v => operandsVisited_nil.cons (by simp)
  | .nested e => (operandsVisited_expr e).cons (by simp)
  | .negative e => (operandsVisited_expr e).cons (by simp)
  | .comparison op l r => by
    intro op' l' r' hmem
    rcases List.mem_cons.mp hmem with heq | hmem
    · cases heq
      exact List.mem_cons_of_mem _ (List.mem_append_left _ (mem_visits l))
    · have hoperands := (operandsVisited_expr l).append (operandsVisited_expr r)
      exact List.mem_cons_of_mem _ (hoperands op' l' r' hmem)
  | .call ps => (operandsVisited_visitsAll ps).cons (by simp)
  | .other ps => (operandsVisited_visitsAll ps).cons (by simp)

theorem operandsVisited_part : (p : Part) → OperandsVisited p.visits
  | .insertion t cs row => operandsVisited_nil.cons (by simp)
  | .query names => operandsVisited_nil.cons (by simp)
  | .factor name aliasName => operandsVisited_nil.cons (by simp)
  | .relation name => operandsVisited_nil.cons (by simp)
  | .expr e => operandsVisited_expr e

/-- The operands of all comparisons of a statement are visited. -/
theorem operandsVisited_visitsAll : (ps : List Part) → OperandsVisited (visitsAll ps)
  | [] => operandsVisited_nil
  | p :: ps => (operandsVisited_part p).append (operandsVisited_visitsAll ps)

end

/-- The column of a comparison is referred to. -/
theorem OperandsVisited.reference_mem {visits : List Part} (hvisits : OperandsVisited visits)
    {c : LiteralComparison} (hc : c ∈ comparisons visits) :
    c.reference ∈ references visits := by
  obtain ⟨p, hp, hcomparison⟩ := List.mem_filterMap.mp hc
  cases p with
  | expr e =>
    cases e with
    | comparison op l r =>
      obtain ⟨reference, hreference, h⟩ := Option.bind_eq_some_iff.mp hcomparison
      obtain ⟨literal, -, h⟩ := Option.bind_eq_some_iff.mp h
      cases h
      exact List.mem_filterMap.mpr ⟨.expr l, hvisits op l r hp, hreference⟩
    | _ => cases hcomparison
  | _ => cases hcomparison

end SqlAnalysis.Sql
