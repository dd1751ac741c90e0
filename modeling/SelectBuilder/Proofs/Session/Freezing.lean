import SelectBuilder.Proofs.Builder.Freezing
import SelectBuilder.Proofs.Session.Consistency
import SelectBuilder.Proofs.Session.Loosening

/-!
# Frozen clauses over runs

An accepted call changes one clause of one builder. A clause that the cursor has left stays as it is
for the rest of the run, whatever is called or assigned.
-/
namespace SelectBuilder

open Clause

namespace Session

/-- The builders stay consistent. -/
theorem consistent_builders {s : Session} (consistent : ∀ b ∈ s.store.builders, b.Consistent)
    (xs : List Step) : ∀ b ∈ (s.run xs).store.builders, b.Consistent :=
  all_builders_run Builder.fresh_consistent (fun f _ => Builder.relocate_consistent f)
    (fun _ _ _ _ strict h planned =>
      Builder.apply_consistent strict h (Builder.plan_admits planned))
    consistent xs

/-- Every builder of a run is consistent. -/
theorem consistent_of_run {xs : List Step} {id : Nat} {b : Builder}
    (found : (initial.run xs).store.builders[id]? = some b) : b.Consistent :=
  consistent_builders (by simp [initial]) xs b (List.mem_of_getElem? found)

/-- A call of a method that is answered without a failure is accepted by its builder. -/
theorem store_of_isOk {s : Session} {on method : String} {args : List Value}
    {named : List (String × Value)} {id : Nat} {b : Builder}
    (bound : s.names.lookup on = some (.builder id)) (found : s.store.builders[id]? = some b)
    (known : method ∈ methods.map Prod.fst)
    (ok : (s.step (.call on method args named)).2.outcome.isOk) :
    ∃ c change, b.plan (s.store.contextOf b) c = .ok change ∧
      (s.step (.call on method args named)).1.store =
        s.store.setBuilder id (b.apply (s.store.configOf b).strict.isTrue change) := by
  obtain ⟨c, made, asked⟩ := request?_of_isOk (q := ⟨method, args, named⟩) bound known ok
  have accepted : s.accepted? (.call on method args named) = some (id, c) := by
    simp only [accepted?, Request.on] at asked ⊢
    rw [asked]
    simp [Option.filter, ok]
  obtain ⟨b', change, found', planned, store⟩ := store_accepted accepted
  obtain rfl : b = b' := Option.some.inj (found.symm.trans found')
  exact ⟨c, change, planned, store⟩

/-- Once the cursor has left a clause of a builder, no step changes the clause. -/
theorem left_run {s : Session} {id i : Nat} {c : Clause} {b : Builder}
    (found : s.store.builders[id]? = some b) (left : b.Left i c) (xs : List Step) :
    ∃ b', (s.run xs).store.builders[id]? = some b' ∧ b'.Left i c := by
  induction xs generalizing s b with
  | nil => exact ⟨b, found, left⟩
  | cons x xs ih =>
    rcases builder_step x found with ⟨-, same⟩ | ⟨_, change, -, -, changed⟩
    · exact ih same left
    · exact ih changed (left.apply _ change)

/-- After any run a call that succeeds changes its builder alone, and of that one clause. It adds a
clause at the end, or one part at the end of the condition that was opened last; a new condition,
and under strict settings any new clause, takes the cursor from all clauses before it. A clause that
is no condition, or that the cursor has left, stays as it is in all that follows. -/
theorem clauses_run (before : List Step) {id : Nat} {b : Builder}
    (found : (initial.run before).store.builders[id]? = some b) :
    (∀ on method args named, (initial.run before).names.lookup on = some (.builder id) →
      method ∈ methods.map Prod.fst →
      ((initial.run before).step (.call on method args named)).2.outcome.isOk →
      ∃ b', ((initial.run before).step (.call on method args named)).1.store =
          (initial.run before).store.setBuilder id b' ∧
        ((∃ clause, b'.clauses = b.clauses ++ [clause] ∧
            (clause.isCondition ∨ (initial.run before).isStrict id →
              ∀ i < b.clauses.length, b'.cursor ≠ some i)) ∨
          ∃ i kind head parts part, b.clauses[i]? = some (.condition kind head parts) ∧
            (∀ j, Stands isCondition b.clauses j → j ≤ i) ∧
            b'.clauses = b.clauses.set i (.condition kind head (parts ++ [part])))) ∧
    ∀ i c, b.clauses[i]? = some c →
      (c.isCondition →
        b.cursor ≠ some i ∨ ∃ j, i < j ∧ Stands isCondition b.clauses j) →
      ∀ after, ∃ b', (initial.run (before ++ after)).store.builders[id]? = some b' ∧
        b'.clauses[i]? = some c ∧ b'.cursor ≠ some i := by
  have consistent := consistent_of_run found
  constructor
  · intro on method args named bound known ok
    obtain ⟨c, change, planned, store⟩ := store_of_isOk bound found known ok
    rw [isStrict_of_found found]
    exact ⟨_, store, consistent.clauses_apply _ (Builder.plan_admits planned)⟩
  · intro i c inside passed after
    rw [run_append]
    obtain ⟨b', found', left⟩ := left_run found (consistent.left inside passed) after
    exact ⟨b', found', left.found, left.away⟩

/-- A condition on rows, and one on groups after it. -/
def twice : List Step :=
  [.new "q" (.fields []), .call "q" "select" [.text "id"] [], .call "q" "where" [.text "a"] [],
    .call "q" "having" [.text "n"] []]

/-- The settings are made lenient and the second condition is extended. -/
theorem clauses_run_twice :
    (∃ b', ((initial.run twice).step (.call "q" "is_null" [] [])).1.store =
      (initial.run twice).store.setBuilder 0 b') ∧
    ∃ b', (initial.run (twice ++ [.assign "q" "strict_fragments" (.bool false),
          .call "q" "is_null" [] [], .call "q" "or_" [.text "b"] []])).store.builders[0]? =
        some b' ∧
      b'.clauses[1]? = some (.condition .rows (.text "a") []) := by
  obtain ⟨changes, frozen⟩ := @clauses_run twice 0 _ rfl
  obtain ⟨b', store, -⟩ := changes "q" "is_null" [] [] rfl (by decide) rfl
  obtain ⟨d, found, same, -⟩ := frozen 1 (.condition .rows (.text "a") []) rfl
    (fun _ => .inr ⟨2, by decide, _, rfl, rfl⟩)
    [.assign "q" "strict_fragments" (.bool false), .call "q" "is_null" [] [],
      .call "q" "or_" [.text "b"] []]
  exact ⟨⟨b', store⟩, d, found, same⟩

end Session

end SelectBuilder
