import SelectBuilder.Proofs.Builder.Admission
import SelectBuilder.Proofs.Session.Conditions
import SelectBuilder.Proofs.Session.Freezing

/-!
# Admission of clauses over runs

The demands of a call are looked up in fields of the builder. As these agree with the clauses after
any run, the demands can be read off the list of clauses.
-/
namespace SelectBuilder

open Clause

namespace Session

/-- The outcome of a call on a builder is that of its plan. -/
theorem outcome_request {s : Session} {x : Step} {id : Nat} {b : Builder} {c : Call}
    (found : s.store.builders[id]? = some b) (asked : s.request? x = some (id, c)) :
    (s.step x).2.outcome = (b.plan (s.store.contextOf b) c).map fun _ => .done := by
  obtain ⟨on, method, args, named, rfl⟩ := request?_eq_some asked
  obtain ⟨bound, made⟩ := request?_call_eq_some.mp asked
  exact step_request bound found made

/-- After any run the calls for the clauses that stand once are decided by the clauses that are
there and by the operands, in a fixed order of the demands. Any other call succeeds on two builders
alike, whether they have a FROM clause or not. -/
theorem admission_run (before : List Step) {id : Nat} {b : Builder}
    (found : (initial.run before).store.builders[id]? = some b) (x : Step) :
    (∀ columns, (initial.run before).request? x = some (id, .select columns) →
      ((initial.run before).step x).2.outcome.Decided
        [(b.clauses.any isSelect = false, 1016), (columns ≠ [], 1000),
          (∀ v ∈ columns, v.toColumn?.isSome, 1000)]) ∧
    (∀ table aliasName, (initial.run before).request? x = some (id, .source table aliasName) →
      ((initial.run before).step x).2.outcome.Decided
        [(b.clauses.any isSelect, 1001), (table.isTrue, 1002),
          (b.clauses.any isSource = false, 1005)]) ∧
    (∀ query aliasName, (∀ k, query ≠ .reference (.builder k)) →
      (initial.run before).request? x = some (id, .sourceQuery query aliasName) →
      ((initial.run before).step x).2.outcome.Decided
        [(aliasName.isTrue, 1003), (b.clauses.any isSelect, 1001), (query.isTrue, 1002),
          (b.clauses.any isSource = false, 1005)]) ∧
    (∀ column, (initial.run before).request? x = some (id, .rows column) →
      ((initial.run before).step x).2.outcome.Decided
        [(b.clauses.any isSelect, 1001), (column.isTrue, 1000),
          (b.clauses.any (isConditionOn .rows) = false, 1017)]) ∧
    (∀ expression, (initial.run before).request? x = some (id, .groups expression) →
      ((initial.run before).step x).2.outcome.Decided
        [(expression.isTrue, 1015), (b.clauses.any (isConditionOn .groups) = false, 1015)]) ∧
    ∀ c y id' b', (initial.run before).store.builders[id']? = some b' → b'.AlikeButSource b →
      ((initial.run before).store.configOf b').checkPagination.isTrue =
        ((initial.run before).store.configOf b).checkPagination.isTrue →
      (initial.run before).request? x = some (id, c) →
      (initial.run before).request? y = some (id', c) → c.addsSource = false →
      ((initial.run before).step x).2.outcome.isOk =
        ((initial.run before).step y).2.outcome.isOk := by
  have consistent := consistent_of_run found
  refine ⟨fun columns asked => ?_, fun table aliasName asked => ?_,
    fun query aliasName other asked => ?_, fun column asked => ?_, fun expression asked => ?_,
    fun c y id' b' found' alike checks asked asked' other => ?_⟩
  · rw [outcome_request found asked]
    exact (Builder.planSelect_decided consistent columns).map _
  · rw [outcome_request found asked]
    exact (Builder.planSource_decided consistent table aliasName).map _
  · have plain : query.embedded (initial.run before).store.resolver = .ok query := by
      unfold Value.embedded
      split
      · exact absurd rfl (other _)
      · rfl
    rw [outcome_request found asked]
    exact (Builder.planSourceQuery_decided consistent plain aliasName).map _
  · rw [outcome_request found asked]
    exact (Builder.planRows_decided consistent column).map _
  · rw [outcome_request found asked]
    exact (Builder.planGroups_decided consistent expression).map _
  · have same : (b.plan ((initial.run before).store.contextOf b) c).isOk =
        (b'.plan ((initial.run before).store.contextOf b') c).isOk :=
      Builder.plan_isOk_but_source consistent (consistent_of_run found') alike rfl checks other
    rw [outcome_request found asked, outcome_request found' asked']
    simpa using same

/-- Two statements with the same columns, the second one with a table. -/
def tabled : List Step :=
  [.new "q" (.fields []), .call "q" "select" [.text "id"] [], .new "t" (.fields []),
    .call "t" "select" [.text "id"] [], .call "t" "from_" [.text "users"] []]

/-- A second SELECT without columns is refused as the second one, a subquery for the second
statement for want of an alias before its text is looked at. WHERE is taken by both. -/
theorem admission_run_tabled :
    (∃ m, ((initial.run tabled).step (.call "q" "select" [] [])).2.outcome = .error (.misuse m) ∧
      m.code?.map ErrorCode.number = some 1016) ∧
    (∃ m, ((initial.run tabled).step (.call "t" "from_subquery" [.text "", .null] [])).2.outcome =
        .error (.misuse m) ∧ m.code?.map ErrorCode.number = some 1003) ∧
    ((initial.run tabled).step (.call "t" "where" [.text "a"] [])).2.outcome.isOk =
      ((initial.run tabled).step (.call "q" "where" [.text "a"] [])).2.outcome.isOk := by
  obtain ⟨select, -⟩ := @admission_run tabled 0 _ rfl (.call "q" "select" [] [])
  obtain ⟨-, -, query, -⟩ :=
    @admission_run tabled 1 _ rfl (.call "t" "from_subquery" [.text "", .null] [])
  obtain ⟨-, -, -, -, -, alike⟩ := @admission_run tabled 1 _ rfl (.call "t" "where" [.text "a"] [])
  refine ⟨(select [] rfl).refused [] _ _ rfl nofun nofun,
    (query (.text "") .null nofun rfl).refused [] _ _ rfl nofun nofun,
    alike (.rows (.text "a")) (.call "q" "where" [.text "a"] []) 0 _ rfl ⟨rfl, rfl, rfl, rfl, rfl⟩
      rfl rfl rfl rfl⟩

end Session

end SelectBuilder
