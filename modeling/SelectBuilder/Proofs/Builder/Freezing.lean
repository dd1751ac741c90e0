import SelectBuilder.Proofs.Builder.Consistency
import SelectBuilder.Proofs.Lists

/-!
# Frozen clauses

A change adds one clause, or one part to the condition under the cursor. A condition is under the
cursor from the moment it is added, so a clause that the cursor has left is never under it again.
-/
namespace SelectBuilder

open Clause

namespace Clause

/-- Adding a part to the clause at a place sets that clause. -/
theorem modify_extend {cs : List Clause} {i : Nat} {kind : ConditionKind} {head : Value}
    {parts : List String} (found : cs[i]? = some (.condition kind head parts)) (part : String) :
    cs.modify i (extend part) = cs.set i (.condition kind head (parts ++ [part])) := by
  rw [List.modify_eq_set_getElem?, found]
  rfl

end Clause

namespace Builder

variable {b : Builder} {change : Change}

theorem clauses_apply_append (strict : Bool) (b : Builder) (c : Clause) :
    (b.apply strict (.append c)).clauses = b.clauses ++ [c] := rfl

theorem clauses_apply_extend {i : Nat} (cursor : b.cursor = some i) (strict : Bool)
    (op part : String) (stage : Stage) :
    (b.apply strict (.extend op part stage)).clauses = b.clauses.modify i (Clause.extend part) := by
  simp [apply, enter, settle, Builder.extend, cursor]

/-- The clause under the cursor is the condition that was opened last. -/
theorem Consistent.under_cursor (h : b.Consistent) {i : Nat} (cursor : b.cursor = some i) :
    ∃ kind head parts, b.clauses[i]? = some (.condition kind head parts) ∧
      ∀ j, Stands isCondition b.clauses j → j ≤ i := by
  obtain ⟨c, found, is⟩ := h.cursor i cursor
  cases c with
  | condition kind head parts => exact ⟨kind, head, parts, found, h.cursor_last i cursor⟩
  | _ => cases is

/-- A change adds one clause at the end, or one part at the end of the condition that was opened
last. A clause that is a condition, or that closes one, takes the cursor from all older clauses. -/
theorem Consistent.clauses_apply (h : b.Consistent) (strict : Bool) (admits : b.Admits change) :
    (∃ clause, (b.apply strict change).clauses = b.clauses ++ [clause] ∧
        (clause.isCondition ∨ strict →
          ∀ i < b.clauses.length, (b.apply strict change).cursor ≠ some i)) ∨
      ∃ i kind head parts part, b.clauses[i]? = some (.condition kind head parts) ∧
        (∀ j, Stands isCondition b.clauses j → j ≤ i) ∧
        (b.apply strict change).clauses =
          b.clauses.set i (.condition kind head (parts ++ [part])) := by
  cases change with
  | append c =>
    refine .inl ⟨c, clauses_apply_append strict b c, fun taken i before cursor => ?_⟩
    rcases cursor_apply_append.mp cursor with ⟨-, rfl⟩ | ⟨other, relaxed, -⟩
    · exact Nat.lt_irrefl _ before
    · simp [other, relaxed] at taken
  | extend op part stage =>
    obtain ⟨current, -⟩ := admits
    obtain ⟨i, cursor⟩ : ∃ i, b.cursor = some i := by
      cases hc : b.cursor <;> simp_all [current?]
    obtain ⟨kind, head, parts, found, newest⟩ := h.under_cursor cursor
    refine .inr ⟨i, kind, head, parts, part, found, newest, ?_⟩
    rw [clauses_apply_extend cursor, modify_extend found]

/-- A clause stands at a place that the cursor is not at. -/
structure Left (i : Nat) (c : Clause) (b : Builder) : Prop where
  found : b.clauses[i]? = some c
  away : b.cursor ≠ some i

/-- The cursor never comes back, under whatever settings the change is made. -/
theorem Left.apply {i : Nat} {c : Clause} (h : b.Left i c) (strict : Bool) (change : Change) :
    (b.apply strict change).Left i c := by
  obtain ⟨inside, -⟩ := List.getElem?_eq_some_iff.mp h.found
  cases change with
  | append d =>
    refine ⟨?_, fun cursor => ?_⟩
    · rw [clauses_apply_append, List.getElem?_append_left inside, h.found]
    · rcases cursor_apply_append.mp cursor with ⟨-, rfl⟩ | ⟨-, -, back⟩
      · exact Nat.lt_irrefl _ inside
      · exact h.away back
  | extend op part stage =>
    refine ⟨?_, ?_⟩
    · cases cursor : b.cursor with
      | none => simpa [Builder.apply, enter, settle, Builder.extend, cursor] using h.found
      | some place =>
        have other : place ≠ i := fun same => h.away (same ▸ cursor)
        rw [clauses_apply_extend cursor, List.getElem?_modify_ne _ _ other, h.found]
    · simpa [Builder.apply, enter, settle] using h.away

/-- The cursor has left a clause that is no condition, and one that a condition comes after. -/
theorem Consistent.left (h : b.Consistent) {i : Nat} {c : Clause} (found : b.clauses[i]? = some c)
    (passed : c.isCondition →
      b.cursor ≠ some i ∨ ∃ j, i < j ∧ Stands isCondition b.clauses j) : b.Left i c := by
  refine ⟨found, fun cursor => ?_⟩
  obtain ⟨d, found', is⟩ := h.cursor i cursor
  obtain rfl : c = d := Option.some.inj (found.symm.trans found')
  rcases passed is with away | ⟨j, later, stands⟩
  · exact away cursor
  · exact Nat.not_le.mpr later (h.cursor_last i cursor j stands)

end Builder

end SelectBuilder
