import SelectBuilder.Proofs.Session.Run

/-!
# Failing calls

A call that fails is as if it had not been made. It may have been refused, its operands may have no
text, or its record may find no reader: in no case is a builder left half changed.
-/
namespace SelectBuilder

namespace Session

/-- A step that fails because a receiver of its report does has not touched the store. -/
theorem store_of_failure {s done : Session} {x : Step} {report : Option Store.Report} {e : Failure}
    (made : s.effect x = .ok (done, .done, report)) (timely : s.Timely report)
    (failed : (s.step x).2.outcome = .error e) :
    (s.step x).1.store = s.store ∧ (s.step x).1.names = s.names := by
  unfold step stepWith at failed ⊢
  rw [made] at failed ⊢
  cases report with
  | none => cases failed
  | some report =>
    dsimp only at failed ⊢
    split at failed
    · next e' stopped =>
      rcases timely report rfl with during | presentable
      · exact ⟨during, rfl⟩
      · rw [Logging.State.failure_emit presentable] at stopped
        cases stopped
    · cases failed

/-- Whatever the operands, the builder, the settings and the loggers are: if a call fails, for
whatever reason, all builders and configurations are exactly as before, and so are the names. -/
theorem call_atomic {s : Session} {on method : String} {args : List Value}
    {named : List (String × Value)} {e : Failure}
    (failed : (s.step (.call on method args named)).2.outcome = .error e) :
    (s.step (.call on method args named)).1.store = s.store ∧
      (s.step (.call on method args named)).1.names = s.names := by
  cases asked : s.request? (.call on method args named) with
  | some p =>
    cases called : s.store.call p.1 p.2 with
    | ok q =>
      rw [(step_called asked called).2.2] at failed
      cases failed
    | error e' =>
      rw [(step_refused asked called).1]
      exact ⟨rfl, rfl⟩
  | none =>
    cases made : s.effect (.call on method args named) with
    | error e' => simp [step, stepWith, made, afterFailure]
    | ok effect =>
      obtain ⟨done, result, report⟩ := effect
      obtain ⟨adds, -, rfl⟩ := runCall_adds asked made
      exact store_of_failure made adds.timely failed

/-- A session in which a column waits for its operator, so that no further one is taken. -/
def waiting : Session :=
  initial.run [.new "q" (.fields []), .call "q" "select" [.text "id"] [],
    .call "q" "where" [.text "a"] []]

theorem call_atomic_waiting :
    (waiting.step (.call "q" "and_" [.text "b"] [])).1.store = waiting.store ∧
      (waiting.step (.call "q" "and_" [.text "b"] [])).1.names = waiting.names :=
  call_atomic (show (waiting.step (.call "q" "and_" [.text "b"] [])).2.outcome =
    .error (.misuse (.columnPending "AND" "WHERE a")) by rfl)

end Session

end SelectBuilder
