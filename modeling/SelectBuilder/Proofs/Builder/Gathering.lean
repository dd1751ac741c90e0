import Mathlib.Data.List.Forall2
import SelectBuilder.Proofs.Builder.Consistency
import SelectBuilder.Proofs.Builder.Likeness

/-!
# Operators gathered behind their condition

Under relaxed settings an operator may come after clauses that follow its condition. Moved back to
the condition it does the same under strict settings: a clause looks at nothing that an operator
changes, and an operator at nothing that such a clause changes.
-/
namespace SelectBuilder

/-- A sequence cut behind the operators of its last condition. -/
structure Arrangement (α : Type) where
  settled : List α := []
  later : List α := []

namespace Arrangement

variable {α β : Type}

def all (a : Arrangement α) : List α := a.settled ++ a.later

/-- An operator goes behind the last condition and the operators that this has already, anything
else to the end. Without a condition an operator goes to the end as well. -/
def place (opens operates : α → Bool) (a : Arrangement α) (x : α) : Arrangement α :=
  if opens x then { settled := a.all ++ [x] }
  else if operates x && !a.settled.isEmpty then { a with settled := a.settled ++ [x] }
  else { a with later := a.later ++ [x] }

theorem all_place (opens operates : α → Bool) (a : Arrangement α) (x : α) :
    (a.place opens operates x).all.Perm (a.all ++ [x]) := by
  unfold place
  split
  · simp [all]
  · split
    · simpa [all] using (List.perm_append_singleton x a.later).symm.append_left a.settled
    · simp [all]

end Arrangement

section Gathered

variable {α β : Type} {opens operates : α → Bool} {opens' operates' : β → Bool}

/-- The sequence with its operators moved to the conditions that they operate on. -/
def gathered (opens operates : α → Bool) (xs : List α) : List α :=
  (xs.foldl (Arrangement.place opens operates) {}).all

/-- Nothing is lost or added. -/
theorem gathered_perm (xs : List α) : (gathered opens operates xs).Perm xs := by
  induction xs using List.reverseRecOn with
  | nil => exact .refl _
  | append_singleton xs x ih =>
    rw [gathered, List.foldl_append]
    exact (Arrangement.all_place opens operates _ x).trans (ih.append_right [x])

/-- Sequences that are related item by item are gathered alike. -/
theorem forall₂_gathered {R : α → β → Prop} (first : ∀ {x y}, R x y → opens x = opens' y)
    (second : ∀ {x y}, R x y → operates x = operates' y) {xs : List α} {ys : List β}
    (h : List.Forall₂ R xs ys) :
    List.Forall₂ R (gathered opens operates xs) (gathered opens' operates' ys) := by
  let Like (a : Arrangement α) (a' : Arrangement β) : Prop :=
    List.Forall₂ R a.settled a'.settled ∧ List.Forall₂ R a.later a'.later
  have placed {a : Arrangement α} {a' : Arrangement β} (like : Like a a') {x : α} {y : β}
      (hxy : R x y) : Like (a.place opens operates x) (a'.place opens' operates' y) := by
    obtain ⟨settled, later⟩ := like
    have last := List.Forall₂.cons hxy .nil
    have empty : a.settled.isEmpty = a'.settled.isEmpty := by
      rw [Bool.eq_iff_iff, List.isEmpty_iff_length_eq_zero, List.isEmpty_iff_length_eq_zero,
        settled.length_eq]
    unfold Arrangement.place
    rw [← first hxy, ← second hxy, ← empty]
    split
    · exact ⟨List.rel_append (List.rel_append settled later) last, .nil⟩
    · split
      · exact ⟨List.rel_append settled last, later⟩
      · exact ⟨settled, List.rel_append later last⟩
  have arranged {a : Arrangement α} {a' : Arrangement β} (like : Like a a') :
      Like (xs.foldl (Arrangement.place opens operates) a)
        (ys.foldl (Arrangement.place opens' operates') a') := by
    induction h generalizing a a' with
    | nil => exact like
    | cons hxy _ ih => exact ih (placed like hxy)
  have empty : Like {} {} := ⟨.nil, .nil⟩
  obtain ⟨settled, later⟩ := arranged empty
  exact List.rel_append settled later

end Gathered

def Call.operates (c : Call) : Bool := c.operator?.isSome

/-- An operator opens no condition. -/
theorem Call.opens_of_operator {c : Call} {kind : OperatorKind} (h : c.operator? = some kind) :
    c.opens = false := by
  cases c <;> first | rfl | cases h

namespace Builder

variable {ctx : Context} {strict : Bool} {b d e f : Builder} {cs ds : List Call} {c : Call}
  {change : Change}

/-- A builder accepts calls one after the other, and this is what becomes of it. -/
inductive Accepts (ctx : Context) (strict : Bool) : Builder → List Call → Builder → Prop
  | nil (b : Builder) : Accepts ctx strict b [] b
  | cons {b d : Builder} {c : Call} {cs : List Call} {change : Change}
      (planned : b.plan ctx c = .ok change)
      (rest : Accepts ctx strict (b.apply strict change) cs d) : Accepts ctx strict b (c :: cs) d

theorem Accepts.append (h : b.Accepts ctx strict cs d) (h' : d.Accepts ctx strict ds e) :
    b.Accepts ctx strict (cs ++ ds) e := by
  induction h with
  | nil b => exact h'
  | cons planned _ ih => exact .cons planned (ih h')

theorem Accepts.concat (h : b.Accepts ctx strict cs d) (planned : d.plan ctx c = .ok change) :
    b.Accepts ctx strict (cs ++ [c]) (d.apply strict change) :=
  h.append (.cons planned (.nil _))

theorem modify_append_left {α : Type} {l : List α} {i : Nat} (inside : i < l.length) (m : List α)
    (f : α → α) : (l ++ m).modify i f = l.modify i f ++ m :=
  List.ext_getElem? fun j => by grind

/-- What is accepted after the last operator adds the same clauses to any builder in which the same
places are noted. -/
theorem Accepts.adds (h : b.Accepts ctx strict cs d) (clauses : ∀ c ∈ cs, c.operator? = none) :
    ∃ more, d.clauses = b.clauses ++ more ∧
      ∀ e : Builder, e.slots = b.slots → e.clauses.length = b.clauses.length →
        ∃ f, e.Accepts ctx strict cs f ∧ f.slots = d.slots ∧ f.clauses = e.clauses ++ more := by
  induction h with
  | nil b => exact ⟨[], by simp, fun e slots _ => ⟨e, .nil e, slots, by simp⟩⟩
  | @cons b d c cs change planned rest ih =>
    have clause := clauses c List.mem_cons_self
    obtain ⟨kind, op, part, operator, -⟩ | ⟨added, -, rfl, -, -⟩ := plan_change planned
    · rw [clause] at operator
      cases operator
    · obtain ⟨more, extended, again⟩ := ih fun c hc => clauses c (List.mem_cons_of_mem _ hc)
      refine ⟨added :: more, by simpa [apply, enter, settle] using extended,
        fun e slots length => ?_⟩
      have planned' : e.plan ctx c = .ok (.append added) :=
        (plan_clause_congr clause slots (.refl ..) rfl).symm.trans planned
      obtain ⟨f, accepts, noted, same⟩ := again (e.apply strict (.append added))
        (by simp [slots_apply_append, slots, length]) (by simp [apply, enter, settle, length])
      exact ⟨f, .cons planned' accepts, noted, by simpa [apply, enter, settle] using same⟩

/-- The calls of a relaxed builder, arranged for a strict one: behind the calls that are settled the
strict builder is at the condition of the relaxed one. -/
structure Arranged (ctx : Context) (start b : Builder) (a : Arrangement Call) (e d : Builder) :
    Prop where
  settled : start.Accepts ctx true a.settled e
  later : e.Accepts ctx true a.later d
  clauses : d.clauses = b.clauses
  slots : d.slots = b.slots
  free : ∀ c ∈ a.later, c.operator? = none
  cursor : ∀ place, b.cursor = some place →
    a.settled ≠ [] ∧ e.cursor = some place ∧ place < e.clauses.length ∧ e.stage = b.stage

variable {start : Builder} {a : Arrangement Call}

/-- An operator is made on the condition, and the later clauses are added again. -/
theorem Arranged.operate {kind : OperatorKind} {op part : String} (h : start.Arranged ctx b a e d)
    (operator : c.operator? = some kind)
    (planned : b.plan ctx c = .ok (.extend op part kind.stage)) :
    ∃ e' d', start.Arranged ctx (b.apply false (.extend op part kind.stage))
      (a.place Call.opens Call.operates c) e' d' := by
  obtain ⟨place, cursor⟩ : ∃ place, b.cursor = some place := by
    have current := (plan_admits planned).1
    cases hc : b.cursor <;> simp_all [current?]
  obtain ⟨some, cursor', inside, stage⟩ := h.cursor place cursor
  obtain ⟨more, extended, again⟩ := h.later.adds h.free
  have clauses : b.clauses = e.clauses ++ more := h.clauses.symm.trans extended
  have like : b.LikeConditions ctx.resolver ctx.resolver e := by
    simp [LikeConditions, current?, cursor, cursor', clauses, List.getElem?_append_left inside]
  have planned' := (plan_operator_congr operator stage like (.refl ..)).symm.trans planned
  obtain ⟨d', later, noted, added⟩ := again (e.apply true (.extend op part kind.stage))
    (by simp [apply, enter, settle]) (by simp [apply, enter, settle])
  have moved : a.place Call.opens Call.operates c = { a with settled := a.settled ++ [c] } := by
    simp [Arrangement.place, Call.opens_of_operator operator, Call.operates, operator, some]
  rw [moved]
  refine ⟨_, d', h.settled.concat planned', later, ?_, ?_, h.free, ?_⟩
  · rw [added]
    simp [apply, enter, settle, extend, cursor, cursor', clauses, modify_append_left inside]
  · simp [noted, h.slots, apply, enter, settle]
  · intro at' hat
    obtain rfl : place = at' := by simpa [apply, enter, settle, cursor] using hat
    simp [apply, enter, settle, extend, cursor, cursor', inside]

/-- A call for a clause goes to the end. If the clause is a condition, all that is there by then is
settled. -/
theorem Arranged.add {added : Clause} (h : start.Arranged ctx b a e d)
    (clause : c.operator? = none) (opens : added.isCondition = c.opens)
    (planned : b.plan ctx c = .ok (.append added)) :
    ∃ e' d', start.Arranged ctx (b.apply false (.append added))
      (a.place Call.opens Call.operates c) e' d' := by
  have planned' : d.plan ctx c = .ok (.append added) :=
    (plan_clause_congr clause h.slots (.refl ..) rfl).symm.trans planned
  have clauses :
      (d.apply true (.append added)).clauses = (b.apply false (.append added)).clauses := by
    simp [apply, enter, settle, h.clauses]
  have slots : (d.apply true (.append added)).slots = (b.apply false (.append added)).slots := by
    simp [slots_apply_append, h.clauses, h.slots]
  cases opening : c.opens with
  | true =>
    have moved : a.place Call.opens Call.operates c = { settled := a.all ++ [c] } := by
      simp [Arrangement.place, opening]
    rw [moved]
    refine ⟨_, _, (h.settled.append h.later).concat planned', .nil _, clauses, slots, by simp, ?_⟩
    intro place hp
    obtain rfl : b.clauses.length = place := by
      simpa [apply, enter, settle, append, opens, opening] using hp
    simp [apply, enter, settle, append, opens, opening, h.clauses]
  | false =>
    have moved : a.place Call.opens Call.operates c = { a with later := a.later ++ [c] } := by
      simp [Arrangement.place, opening, Call.operates, clause]
    rw [moved]
    refine ⟨e, _, h.settled, h.later.concat planned', clauses, slots, ?_, ?_⟩
    · simpa [or_imp, forall_and, clause] using h.free
    · simpa [apply, enter, settle, append, opens, opening] using h.cursor

theorem Arranged.step (h : start.Arranged ctx b a e d) (planned : b.plan ctx c = .ok change) :
    ∃ e' d',
      start.Arranged ctx (b.apply false change) (a.place Call.opens Call.operates c) e' d' := by
  obtain ⟨kind, op, part, operator, rfl⟩ | ⟨added, clause, rfl, opens, -⟩ := plan_change planned
  · exact h.operate operator planned
  · exact h.add clause opens planned

theorem Arranged.run (h : start.Arranged ctx b a e d) (accepts : b.Accepts ctx false cs f) :
    ∃ e' d',
      start.Arranged ctx f (cs.foldl (Arrangement.place Call.opens Call.operates) a) e' d' := by
  induction accepts generalizing a e d with
  | nil b => exact ⟨e, d, h⟩
  | cons planned _ ih =>
    obtain ⟨e', d', arranged⟩ := h.step planned
    exact ih arranged

/-- What a fresh builder accepts under relaxed settings, a fresh builder accepts under strict ones
with the operators moved to their conditions, and it comes to have the same clauses. -/
theorem accepts_gathered {config : Nat} (config' : Nat)
    (accepts : ({ config := config } : Builder).Accepts ctx false cs b) :
    ∃ d, ({ config := config' } : Builder).Accepts ctx true
      (gathered Call.opens Call.operates cs) d ∧ d.clauses = b.clauses := by
  have start : ({ config := config' } : Builder).Arranged ctx { config := config } {}
      { config := config' } { config := config' } :=
    ⟨.nil _, .nil _, rfl, rfl, nofun, nofun⟩
  obtain ⟨e, d, arranged⟩ := start.run accepts
  exact ⟨d, arranged.settled.append arranged.later, arranged.clauses⟩

end Builder

end SelectBuilder
