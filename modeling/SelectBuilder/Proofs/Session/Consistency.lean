import SelectBuilder.Proofs.Builder.Consistency
import SelectBuilder.Proofs.Session.Run

/-!
# Consistency over runs

Whatever steps a session makes, and whatever is assigned to its configurations in between, every
builder of it stays consistent.
-/
namespace SelectBuilder

namespace Session

/-- A builder is never lost. -/
theorem builder_run {s : Session} {id : Nat} {b : Builder}
    (found : s.store.builders[id]? = some b) (xs : List Step) :
    ∃ b', (s.run xs).store.builders[id]? = some b' := by
  induction xs generalizing s b with
  | nil => exact ⟨b, found⟩
  | cons x xs ih =>
    rcases builder_step x found with ⟨-, same⟩ | ⟨c, change, -, -, changed⟩
    · exact ih same
    · exact ih changed

/-- While the strictness of its settings does not change, a builder keeps what changes under these
settings keep. -/
theorem kept_run {P : Builder → Prop} {strict : Bool}
    (applied : ∀ {b change}, P b → P (b.apply strict change)) {s : Session} {id : Nat}
    {b : Builder} (found : s.store.builders[id]? = some b) (holds : P b) {xs : List Step}
    (always : s.Always (fun t => t.isStrict id = strict) xs) {b' : Builder}
    (found' : (s.run xs).store.builders[id]? = some b') : P b' := by
  induction xs generalizing s b with
  | nil => exact Option.some.inj (found.symm.trans found') ▸ holds
  | cons x xs ih =>
    obtain ⟨now, later⟩ := always
    rcases builder_step x found with ⟨-, same⟩ | ⟨c, change, -, -, changed⟩
    · exact ih same holds later found'
    · rw [← isStrict_of_found found, now] at changed
      exact ih changed (applied holds) later found'

/-- After any run every builder is consistent, and none of the noted kinds of clauses is twice in
it. If the settings of a builder were strict ever since it had no condition, the cursor is somewhere
if and only if the last clause is a condition; if they were relaxed, if and only if there is a
condition at all. -/
theorem consistent_run (before after : List Step) :
    (∀ b ∈ (initial.run (before ++ after)).store.builders, b.Consistent ∧
      b.clauses.countP Clause.isSelect ≤ 1 ∧ b.clauses.countP Clause.isSource ≤ 1 ∧
      b.clauses.countP (Clause.isConditionOn .rows) ≤ 1 ∧
      b.clauses.countP (Clause.isConditionOn .groups) ≤ 1) ∧
    ∀ id b, (initial.run before).store.builders[id]? = some b →
      b.clauses.any Clause.isCondition = false →
      ∃ b', (initial.run (before ++ after)).store.builders[id]? = some b' ∧
        ((initial.run before).Always (fun s => s.isStrict id = true) after → b'.FollowsLast) ∧
        ((initial.run before).Always (fun s => s.isStrict id = false) after → b'.FollowsAny) := by
  have consistent (xs : List Step) : ∀ b ∈ (initial.run xs).store.builders, b.Consistent :=
    all_builders_run Builder.fresh_consistent (fun f b => Builder.relocate_consistent f)
      (fun _ _ _ _ strict h planned =>
        Builder.apply_consistent strict h (Builder.plan_admits planned))
      (by simp [initial]) xs
  constructor
  · intro b hb
    have h := consistent _ b hb
    exact ⟨h, h.select.unique, h.source.unique, h.rows.unique, h.groups.unique⟩
  · intro id b found none
    obtain ⟨last, any⟩ := (consistent before b (List.mem_of_getElem? found)).follows none
    obtain ⟨b', found'⟩ := builder_run found after
    rw [run_append]
    exact ⟨b', found', fun strict => kept_run Builder.strict_followsLast found last strict found',
      fun relaxed => kept_run Builder.relaxed_followsAny found any relaxed found'⟩

/-- A builder that is given a condition, and whose settings are changed in between. -/
def conditioning : List Step :=
  [.call "q" "select" [.text "id"] [], .assign "q" "validate_pagination" (.bool false),
    .call "q" "where" [.text "a"] [], .call "q" "limit" [.text "all"] []]

theorem consistent_run_conditioning :
    (∀ b ∈ (initial.run ([.new "q" (.fields [])] ++ conditioning)).store.builders, b.Consistent) ∧
      ∃ b, (initial.run ([.new "q" (.fields [])] ++ conditioning)).store.builders[0]? = some b ∧
        b.FollowsLast := by
  obtain ⟨consistent, follows⟩ := consistent_run [.new "q" (.fields [])] conditioning
  obtain ⟨b, found, last, -⟩ := follows 0 { config := 1 } rfl rfl
  exact ⟨fun b hb => (consistent b hb).1, b, found, last ⟨rfl, rfl, rfl, rfl, rfl⟩⟩

end Session

end SelectBuilder
