import SelectBuilder.Proofs.Builder.Consistency
import SelectBuilder.Proofs.Builder.Operators

/-!
# Operators of conditions

The kinds of the operators that extended a clause make up a word. The stage of a builder is that of
the word of the clause under its cursor, which decides whether a further operator is taken.
-/
namespace SelectBuilder

open OperatorKind

theorem Clause.parts_extend {c : Clause} (h : c.isCondition) (part : String) :
    (c.extend part).parts = c.parts ++ [part] := by
  cases c <;> first | rfl | cases h

theorem Clause.parts_relocate (f : Reference → Reference) (c : Clause) :
    (c.relocate f).parts = c.parts := by
  cases c <;> rfl

/-- The operators that extended the clauses of a builder, by the places of the clauses. -/
abbrev Words := Nat → List OperatorKind

namespace Words

def none : Words := fun _ => []

def add (w : Words) (place : Nat) (kind : OperatorKind) : Words := fun i =>
  if i = place then w i ++ [kind] else w i

/-- An accepted operator belongs to the clause that was under the cursor of the builder. -/
def after (w : Words) (b : Builder) (c : Call) : Words :=
  match b.cursor, c.operator? with
  | some place, some kind => w.add place kind
  | _, _ => w

theorem after_clause (w : Words) (b : Builder) {c : Call} (clause : c.operator? = Option.none) :
    w.after b c = w := by
  unfold after
  split
  · next operator =>
    rw [clause] at operator
    cases operator
  · rfl

end Words

namespace Builder

variable {b : Builder} {w : Words}

/-- The words describe the clauses of a builder and its stage. -/
structure Reads (b : Builder) (w : Words) : Prop where
  consistent : b.Consistent
  legal : ∀ i, w i ∈ OperatorWords.all
  parts : ∀ i c, b.clauses[i]? = some c → c.parts.length = (w i).length
  unused : ∀ i, b.clauses.length ≤ i → w i = []
  stage : ∀ i, b.cursor = some i → stageAfter (w i) = some b.stage

theorem fresh_reads (config : Nat) : ({ config := config } : Builder).Reads .none where
  consistent := fresh_consistent config
  legal _ := OperatorWords.mem_all.mpr ⟨_, stageAfter_nil⟩
  parts _ _ found := by cases found
  unused _ _ := rfl
  stage _ cursor := by cases cursor

theorem Reads.relocate (h : b.Reads w) (f : Reference → Reference) :
    (Store.relocateBuilder f b).Reads w where
  consistent := relocate_consistent f h.consistent
  legal := h.legal
  parts i c found := by
    obtain ⟨d, inside, rfl⟩ : ∃ d, b.clauses[i]? = some d ∧ d.relocate f = c := by
      simpa [Store.relocateBuilder] using found
    rw [Clause.parts_relocate, h.parts i d inside]
  unused i outside := h.unused i (by simpa [Store.relocateBuilder] using outside)
  stage := h.stage

/-- The cursor is on a condition, which waits for an operator or has one. -/
theorem Reads.cursor (h : b.Reads w) {i : Nat} (cursor : b.cursor = some i) :
    b.current?.isSome ∧ (b.stage = .pending ∨ b.stage = .complete) := by
  obtain ⟨c, found, -⟩ := h.consistent.cursor i cursor
  exact ⟨by simp [current?, cursor, found], (stageAfter_eq_some (h.stage i cursor)).1⟩

/-- An operator with valid operands is taken if and only if it goes on with the word of the clause
under the cursor. -/
theorem Reads.takes (h : b.Reads w) {ctx : Context} {c : Call} {kind : OperatorKind} {i : Nat}
    (cursor : b.cursor = some i) (operator : c.operator? = some kind)
    (valid : c.Valid ctx.resolver) :
    (∃ change, b.plan ctx c = .ok change) ↔ w i ++ [kind] ∈ OperatorWords.all := by
  obtain ⟨current, stage⟩ := h.cursor cursor
  rw [OperatorWords.concat_mem_all (h.stage i cursor), plan_operator_isOk operator]
  cases kind <;> rcases stage with stage | stage <;> simp [Suits, stage, current, valid]

/-- A new clause has no operators yet. -/
theorem Reads.append (h : b.Reads w) {c : Clause} (strict : Bool) (takes : b.Takes c)
    (bare : c.parts = []) : (b.apply strict (.append c)).Reads w where
  consistent := append_consistent strict h.consistent takes
  legal := h.legal
  parts i d found := by
    have clauses : (b.apply strict (.append c)).clauses = b.clauses ++ [c] := rfl
    rcases Nat.lt_trichotomy i b.clauses.length with inside | rfl | outside
    · exact h.parts i d (by simpa [clauses, List.getElem?_append_left inside] using found)
    · obtain rfl : c = d := by simpa [clauses] using found
      rw [bare, h.unused _ (Nat.le_refl _)]
      rfl
    · have inside := (List.getElem?_eq_some_iff.mp found).1
      simp only [clauses, List.length_append, List.length_singleton] at inside
      omega
  unused i outside := h.unused i (by simp [apply, enter, settle] at outside; omega)
  stage i cursor := by
    rcases cursor_apply_append.mp cursor with ⟨is, rfl⟩ | ⟨other, relaxed, old⟩
    · rw [h.unused _ (Nat.le_refl _)]
      simp [apply, enter, settle, Builder.append, is, stageAfter_nil]
    · rw [h.stage i old]
      simp [apply, enter, settle, Builder.append, other, relaxed]

/-- An operator goes to the end of the word of the clause under the cursor. -/
theorem Reads.extend (h : b.Reads w) {op part : String} {kind : OperatorKind} {place : Nat}
    (strict : Bool) (cursor : b.cursor = some place) (suits : kind.Suits b.stage) :
    (b.apply strict (.extend op part kind.stage)).Reads (w.add place kind) := by
  have led : stageAfter (w place ++ [kind]) = some kind.stage :=
    stageAfter_concat_eq_some.mpr ⟨_, h.stage place cursor, suits, rfl⟩
  have clauses : (b.apply strict (.extend op part kind.stage)).clauses =
      b.clauses.modify place (Clause.extend part) := by
    simp [apply, enter, settle, Builder.extend, cursor]
  obtain ⟨condition, found, is⟩ := h.consistent.cursor place cursor
  have inside := (List.getElem?_eq_some_iff.mp found).1
  have elsewhere {i : Nat} (other : i ≠ place) : w.add place kind i = w i := if_neg other
  have here : w.add place kind place = w place ++ [kind] := if_pos rfl
  constructor
  case consistent =>
    refine extend_consistent strict h.consistent ⟨(h.cursor cursor).1, ?_⟩
    cases kind <;> simp [OperatorKind.stage]
  case legal =>
    intro i
    by_cases same : i = place
    · rw [same, here]
      exact OperatorWords.mem_all.mpr ⟨_, led⟩
    · rw [elsewhere same]
      exact h.legal i
  case parts =>
    intro i c hc
    rw [clauses] at hc
    by_cases same : i = place
    · subst same
      obtain rfl : condition.extend part = c := by
        simpa [List.getElem?_modify, found] using hc
      rw [Clause.parts_extend is, here]
      simp [h.parts i condition found]
    · rw [elsewhere same]
      exact h.parts i c (by simpa [List.getElem?_modify, Ne.symm same] using hc)
  case unused =>
    intro i outside
    have beyond : b.clauses.length ≤ i := by simpa [clauses] using outside
    rw [elsewhere (by omega), h.unused i beyond]
  case stage =>
    intro i hi
    obtain rfl : place = i := by simpa [apply, enter, settle, cursor] using hi
    rw [here, led]
    simp [apply, enter, settle, Builder.extend, cursor]

/-- The words go on describing a builder when it accepts a call. -/
theorem Reads.apply (h : b.Reads w) {ctx : Context} {c : Call} {change : Change} (strict : Bool)
    (planned : b.plan ctx c = .ok change) : (b.apply strict change).Reads (w.after b c) := by
  obtain ⟨kind, op, part, operator, rfl⟩ | ⟨clause, noOperator, rfl, -, bare⟩ :=
    plan_change planned
  · obtain ⟨current, complete, -⟩ := (plan_operator_isOk operator).mp ⟨_, planned⟩
    obtain ⟨place, cursor⟩ : ∃ place, b.cursor = some place := by
      cases hc : b.cursor <;> simp_all [current?]
    have suits : kind.Suits b.stage := by
      rcases (h.cursor cursor).2 with stage | stage <;> cases kind <;> simp_all [Suits]
    simpa [Words.after, cursor, operator] using h.extend strict cursor suits
  · rw [Words.after_clause w b noOperator]
    exact h.append strict (plan_admits planned) bare

end Builder

end SelectBuilder
