import SelectBuilder.Proofs.Session.Freezing
import SelectBuilder.Proofs.Session.Telling

/-!
# The log as an account

While debugging records are wanted, the records that go out are an account of what happens to the
statements: one for every clause that is added, one for every condition that is extended, one for
every statement that is finished, and none for anything else. Only the clauses that a copy starts
with are not accounted for.
-/
namespace SelectBuilder

open Outcome Logging

namespace Session

variable {s done : Session} {x : Step} {id : Nat} {result : Result} {report : Option Store.Report}

/-! ## Accounts of single steps -/

theorem Told.logger {r : Store.Report} (h : s.Told x done result (some r)) :
    r.record.logger = builderName := by
  cases h with
  | selected | finished => rfl
  | changed accepted found planned =>
    next change _ => cases change <;> rfl

/-- The dialect of a statement that a step finishes can be shown, and written in any layout. -/
def ShowsDialect (s : Session) (x : Step) : Prop :=
  ∀ on id b, x.finishes? = some on → s.names.lookup on = some (.builder id) →
    s.store.builders[id]? = some b → (s.store.configOf b).dialect.Presentable

theorem Told.presentable {r : Store.Report} (h : s.Told x done result (some r))
    (shown : s.ShowsDialect x) : r.record.Presentable ∧ ∃ v, result.checked = .ok v := by
  cases h with
  | selected => exact ⟨added_presentable _, _, rfl⟩
  | finished asks bound found same shows =>
    have dialect := shown _ _ _ asks bound found
    exact ⟨shown_presentable _ dialect, shows dialect⟩
  | changed => exact ⟨Builder.recordOf_presentable _ _ _, _, rfl⟩

/-- A step concerns a builder if it calls or makes it. -/
def concerns (s : Session) (id : Nat) (x : Step) : Bool :=
  (x.callee?.bind fun on => s.names.lookup on) == some (.builder id) ||
    (s.store.builders.length ≤ id && id < (s.step x).1.store.builders.length)

/-- The keyword of the clause that a builder is told to have got in a step. -/
def appendedBy (s : Session) (id : Nat) (x : Step) : List String :=
  if s.concerns id x then ((s.report? x).bind (·.record.appended?)).toList else []

/-- The keywords of the clauses that a builder is told to have got in a run. -/
def appended (id : Nat) (s : Session) : List Step → List String
  | [] => []
  | x :: xs => s.appendedBy id x ++ appended id (s.step x).1 xs

theorem newest {bs : List Builder} {b b' : Builder} (absent : bs.length ≤ id)
    (found : (bs ++ [b])[id]? = some b') : b' = b := by
  rw [List.getElem?_append_right absent] at found
  exact (List.mem_singleton.mp (List.mem_of_getElem? found))

/-- Debugging records are wanted, on the console and in a file. -/
def logged : List Step := [.configure "DEBUG" false true false]

/-- A statement whose dialect is the statement itself. -/
def circular : List Step :=
  logged ++ [.new "q" (.fields []), .call "q" "select" [.text "id"] [],
    .assign "q" "dialect" (.reference (.builder 0))]

end Session

end SelectBuilder
