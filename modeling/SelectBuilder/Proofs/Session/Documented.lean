import SelectBuilder.Proofs.Builder.Documented
import SelectBuilder.Proofs.Session.Conditions
import SelectBuilder.Proofs.Store.Rendering

/-!
# Documented failures over runs

A builder that has accepted calls with operands of the declared kinds alone always has a text, and
it refuses such a call for nothing but a misuse that is documented for it. The settings may be any,
and may change on the way.
-/
namespace SelectBuilder

namespace Session

variable {s : Session} {id : Nat}

theorem fits_run {b : Builder} (found : s.store.builders[id]? = some b) (fits : ∀ r, b.Fits r)
    {xs : List Step} (declared : ∀ c ∈ s.history id xs, c.Declared) :
    ∃ b', (s.run xs).store.builders[id]? = some b' ∧ ∀ r, b'.Fits r := by
  induction xs generalizing s b with
  | nil => exact ⟨b, found, fits⟩
  | cons x xs ih =>
    have later : ∀ c ∈ (s.step x).1.history id xs, c.Declared := fun c hc =>
      declared c (List.mem_append_right _ hc)
    rcases builder_step x found with ⟨-, same⟩ | ⟨c, change, accepted, planned, changed⟩
    · exact ih same fits later
    · have now := declared c (by simp [history, accepted])
      exact ih changed (fun r => (fits r).apply_declared now planned _) later

/-- Let a builder start fresh, with any configuration, and let the calls that it accepts in a run
have operands of the declared kinds; whatever else happens in the run may be anything. Then it has a
text, as each of its clauses has. A further call of a method with operands of the declared kinds
succeeds, or it fails for a misuse of a class of its own, whose code has one of the numbers that are
documented for the call. -/
theorem documented_run {config : Nat} (fresh : s.store.builders[id]? = some { config := config })
    {xs : List Step} (declared : ∀ c ∈ s.history id xs, c.Declared) :
    (∃ sql, (s.run xs).store.render id = .ok sql) ∧
      (∃ b, (s.run xs).store.builders[id]? = some b ∧
        ∀ clause ∈ b.clauses, ∃ t, clause.render (s.run xs).store.resolver = .ok t) ∧
      ∀ on method args named c, (s.run xs).names.lookup on = some (.builder id) →
        Call.ofMethod method args named = .ok c → c.Declared →
        ((s.run xs).step (.call on method args named)).2.outcome = .ok .done ∨
          ∃ cause code,
            ((s.run xs).step (.call on method args named)).2.outcome = .error (.misuse cause) ∧
            cause.kind = .coded code ∧ code.number ∈ c.numbers := by
  obtain ⟨b, found, fits⟩ := fits_run fresh (fun r => Builder.fresh_fits config) declared
  refine ⟨?_, ⟨b, found, fun clause inside => Clause.render_isOk.mpr (fits _ clause inside)⟩,
    fun on method args named c bound made typed => ?_⟩
  · rw [Store.render_eq found]
    exact Builder.render_isOk.mpr (fits _)
  · have documented := Builder.plan_documented typed (fits ((s.run xs).store.contextOf b).resolver)
    rw [step_request bound found made]
    cases planned : b.plan ((s.run xs).store.contextOf b) c with
    | ok change => exact .inl rfl
    | error e =>
      obtain ⟨cause, code, rfl, kind, listed⟩ := documented e planned
      exact .inr ⟨cause, code, rfl, kind, listed⟩

/-- A session with one builder that checks nothing and keeps conditions open. -/
def lenient : Session :=
  initial.run [.new "q" (.fields
    [("validate_pagination", .bool false), ("strict_fragments", .null), ("dialect", .int 7)])]

/-- Sequences of several lengths, in the places of a column and of a target. -/
def malformed : List Step :=
  [.call "q" "select" [.tuple []] [],
    .call "q" "select" [.tuple [.text "id", .null], .list [.text "n", .text "m"]] [],
    .call "q" "left_join" [.tuple [.text "t", .null, .null], .list [.null]] [],
    .call "q" "limit" [.int (-1)] []]

theorem documented_run_malformed :
    (∃ sql, (lenient.run malformed).store.render 0 = .ok sql) ∧
      ∃ cause code,
        ((lenient.run malformed).step (.call "q" "in_" [.list []] [])).2.outcome =
          .error (.misuse cause) ∧ cause.kind = .coded code ∧ code.number ∈ [1004, 1018] := by
  have history : lenient.history 0 malformed =
      [.select [.tuple [.text "id", .null], .list [.text "n", .text "m"]],
        .paginate (.int (-1)) .null] := rfl
  have declared : ∀ c ∈ lenient.history 0 malformed, c.Declared := by
    rw [history]
    simp [Call.Declared, Value.IsColumn, Value.IsOptional, Value.IsString, Value.IsWhole,
      Value.sequence?]
  obtain ⟨text, -, calls⟩ := @documented_run lenient 0 1 rfl malformed declared
  have listing : (Value.list []).IsListing :=
    .inr ⟨by simp [Value.BuilderFree], [], rfl, nofun⟩
  have call := calls "q" "in_" [.list []] [] (.within false (.list [])) rfl rfl listing
  rcases call with done | refused
  · cases done
  · exact ⟨text, refused⟩

end Session

end SelectBuilder
