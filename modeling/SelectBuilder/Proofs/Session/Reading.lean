import SelectBuilder.Proofs.Session.Run
import SelectBuilder.Proofs.Store.Rendering

/-!
# Reading statements

A reader that cannot take a text refuses it or fails on its first symbols. Only the former is taken
for a failure of parsing. What a reader does is seen at the text and the dialect that it is handed
alone, and reading changes nothing.
-/
namespace SelectBuilder

open Outcome

/-- The failure of a session that the error of a reader turns into. -/
def ReadError.failure : ReadError → Failure
  | .refused reason => .misuse (.statementUnreadable reason)
  | .symbols _ => .unreadableToken

/-- The failure is a misuse of the class of parsing. -/
def Failure.IsParsing (e : Failure) : Prop :=
  ∃ cause : Misuse, e = .misuse cause ∧ cause.kind = .parsing

theorem ReadError.isParsing_failure {e : ReadError} :
    e.failure.IsParsing ↔ ∃ reason, e = .refused reason := by
  cases e with
  | refused reason => exact ⟨fun _ => ⟨reason, rfl⟩, fun _ => ⟨_, rfl, rfl⟩⟩
  | symbols reason => simp [failure, Failure.IsParsing]

/-- What a reader does with a text and a dialect. -/
def Reader.read (reader : Reader) (sql : String) (dialect : Value) :
    Except ReadError (String × Value) :=
  match reader with
  | .accepting => .ok (sql, dialect)
  | .failing e => .error e

/-- The steps that read a statement. -/
def Step.isReading : Step → Bool
  | .read _ _ => true
  | _ => false

namespace Store

variable {α : Type} {s : Store} {id : Nat} {b : Builder} {sql : String}
  {read : String → Value → Except ReadError α}

theorem toExpression_empty (found : s.builders[id]? = some b) (rendered : s.render id = .ok "") :
    s.toExpression id read = misuse .statementEmpty := by
  simp [toExpression, builder, found, rendered]

theorem toExpression_of_ne (found : s.builders[id]? = some b) (rendered : s.render id = .ok sql)
    (written : sql ≠ "") :
    s.toExpression id read = (read sql (s.configOf b).dialect).mapError ReadError.failure := by
  simp only [toExpression, builder, found, rendered, ok_bind, written, if_false]
  cases read sql (s.configOf b).dialect with
  | ok expression => rfl
  | error e => cases e <;> rfl

theorem toExpression_eq_ok (found : s.builders[id]? = some b) (rendered : s.render id = .ok sql)
    {expression : α} :
    s.toExpression id read = .ok expression ↔
      sql ≠ "" ∧ read sql (s.configOf b).dialect = .ok expression := by
  by_cases empty : sql = ""
  · subst empty
    simp [toExpression_empty found rendered, misuse]
  · simp [toExpression_of_ne found rendered empty, mapError_eq_ok, empty]

theorem toExpression_eq_error (found : s.builders[id]? = some b) (rendered : s.render id = .ok sql)
    {e : Failure} :
    s.toExpression id read = .error e ↔
      sql = "" ∧ e = .misuse .statementEmpty ∨
        sql ≠ "" ∧ ∃ error, read sql (s.configOf b).dialect = .error error ∧ error.failure = e := by
  by_cases empty : sql = ""
  · subst empty
    simp [toExpression_empty found rendered, misuse, eq_comm]
  · simp [toExpression_of_ne found rendered empty, mapError_eq_error, empty]

/-- What other readers would do with other texts makes no difference. -/
theorem toExpression_congr {read' : String → Value → Except ReadError α}
    (found : s.builders[id]? = some b) (rendered : s.render id = .ok sql)
    (same : sql ≠ "" → read sql (s.configOf b).dialect = read' sql (s.configOf b).dialect) :
    s.toExpression id read = s.toExpression id read' := by
  by_cases empty : sql = ""
  · subst empty
    rw [toExpression_empty found rendered, toExpression_empty found rendered]
  · rw [toExpression_of_ne found rendered empty, toExpression_of_ne found rendered empty,
      same empty]

/-- The reading of an empty text and of one that the reader refuses are failures of parsing. -/
theorem toExpression_isParsing (found : s.builders[id]? = some b)
    (rendered : s.render id = .ok sql) :
    (∃ e, s.toExpression id read = .error e ∧ e.IsParsing) ↔
      sql = "" ∨ ∃ reason, read sql (s.configOf b).dialect = .error (.refused reason) := by
  have empty : (Failure.misuse .statementEmpty).IsParsing := ⟨.statementEmpty, rfl, rfl⟩
  simp only [toExpression_eq_error found rendered]
  constructor
  · rintro ⟨e, ⟨none, -⟩ | ⟨-, error, refused, rfl⟩, parsing⟩
    · exact .inl none
    · obtain ⟨reason, rfl⟩ := ReadError.isParsing_failure.mp parsing
      exact .inr ⟨reason, refused⟩
  · by_cases none : sql = ""
    · exact fun _ => ⟨_, .inl ⟨none, rfl⟩, empty⟩
    · rintro (none' | ⟨reason, refused⟩)
      · exact absurd none' none
      · exact ⟨_, .inr ⟨none, _, refused, rfl⟩, ReadError.isParsing_failure.mpr ⟨reason, rfl⟩⟩

end Store

namespace Session

variable {s : Session} {on : String} {reader : Reader}

theorem effect_read (s : Session) (on : String) (reader : Reader) :
    s.effect (.read on reader) = do
      let p ← s.store.toExpression (← s.findBuilder on) reader.read
      return quiet s (.parsed p.1 p.2) := by
  cases reader <;> rfl

/-- A reading changes nothing and reports nothing. -/
theorem step_read (s : Session) (on : String) (reader : Reader) :
    (s.step (.read on reader)).1 = s ∧ (s.step (.read on reader)).2.delivery = {} := by
  cases made : s.effect (.read on reader) with
  | error e => simp [step, stepWith, made, afterFailure, refuse]
  | ok p =>
    have quiet : ∃ v, p = quiet s v := by
      rw [effect_read] at made
      obtain ⟨id, -, made⟩ := bind_eq_ok.mp made
      obtain ⟨v, -, made⟩ := bind_eq_ok.mp made
      cases made
      exact ⟨_, rfl⟩
    obtain ⟨v, rfl⟩ := quiet
    simp [step, stepWith, made, Session.quiet]

theorem outcome_read {id : Nat} (bound : s.names.lookup on = some (.builder id)) :
    (s.step (.read on reader)).2.outcome =
      (s.store.toExpression id reader.read).map fun p => .parsed p.1 p.2 := by
  have made := s.effect_read on reader
  rw [findBuilder_eq_ok.mpr bound, ok_bind] at made
  cases read : s.store.toExpression id reader.read with
  | ok p =>
    rw [read, ok_bind] at made
    simp only [step, stepWith, made]
    rfl
  | error e =>
    rw [read, error_bind] at made
    simp only [step, stepWith, made]
    rfl

/-- A run may do without its readings. -/
theorem run_unread (s : Session) (xs : List Step) :
    s.run (xs.filter fun x => !x.isReading) = s.run xs := by
  induction xs generalizing s with
  | nil => rfl
  | cons x xs ih =>
    cases x with
    | read on reader => simpa [Step.isReading, (s.step_read on reader).1] using ih s
    | _ => exact ih _

/-- How a builder that has a text is read. The reading gives an expression if the text is not empty
and the reader takes it, with the dialect of the configuration, to that expression. It is a failure
of parsing if the text is empty, whatever the reader would do, or if the reader refuses it; it fails
without being a misuse if the symbols of the text stop the reader. Only what the reader does with
this text and this dialect counts, and nothing of an empty text. A reading gives back what is handed
over if the reader gives it back, and readings in a run make no difference to what comes later. -/
theorem read_run {s : Session} {id : Nat} {b : Builder} {sql : String}
    (found : s.store.builders[id]? = some b) (rendered : s.store.render id = .ok sql) :
    (∀ (α : Type) (read : String → Value → Except ReadError α),
      (∀ expression, s.store.toExpression id read = .ok expression ↔
        sql ≠ "" ∧ read sql (s.store.configOf b).dialect = .ok expression) ∧
      ((∃ e, s.store.toExpression id read = .error e ∧ e.IsParsing) ↔
        sql = "" ∨
          ∃ reason, read sql (s.store.configOf b).dialect = .error (.refused reason)) ∧
      (s.store.toExpression id read = .error .unreadableToken ↔
        sql ≠ "" ∧
          ∃ reason, read sql (s.store.configOf b).dialect = .error (.symbols reason)) ∧
      ∀ read', (sql ≠ "" → read sql (s.store.configOf b).dialect =
          read' sql (s.store.configOf b).dialect) →
        s.store.toExpression id read = s.store.toExpression id read') ∧
      (∀ on reader, s.names.lookup on = some (.builder id) →
        (s.step (.read on reader)).1 = s ∧ (s.step (.read on reader)).2.delivery = {} ∧
          (s.step (.read on reader)).2.outcome =
            (s.store.toExpression id reader.read).map fun p => .parsed p.1 p.2) ∧
      ∀ xs, s.run (xs.filter fun x => !x.isReading) = s.run xs := by
  refine ⟨fun α read => ⟨fun expression => Store.toExpression_eq_ok found rendered,
    Store.toExpression_isParsing found rendered, ?_,
    fun read' same => Store.toExpression_congr found rendered same⟩,
    fun on reader bound => ⟨(s.step_read on reader).1, (s.step_read on reader).2,
      outcome_read bound⟩, s.run_unread⟩
  rw [Store.toExpression_eq_error found rendered]
  constructor
  · rintro (⟨-, other⟩ | ⟨written, error, failed, same⟩)
    · cases other
    · cases error with
      | refused reason => cases same
      | symbols reason => exact ⟨written, reason, failed⟩
  · rintro ⟨written, reason, failed⟩
    exact .inr ⟨written, _, failed, rfl⟩

/-- A condition on a text that holds a quote. The quote is written as it is. -/
def quoting : List Step :=
  [.new "q" (.fields [("dialect", .text "sqlite")]), .call "q" "select" [.text "id"] [],
    .call "q" "where" [.text "name"] [], .call "q" "equals_to" [.text "it's"] []]

theorem render_quoting :
    (initial.run quoting).store.render 0 = .ok "SELECT id WHERE name = 'it's'" := by
  rw [Store.render_eq rfl]
  rfl

/-- A reader that takes any text gets this one. One that refuses it stops with a misuse. -/
theorem read_run_quoting :
    ((initial.run quoting).step (.read "q" .accepting)).2.outcome =
        .ok (.parsed "SELECT id WHERE name = 'it's'" (.text "sqlite")) ∧
      ∀ reason, ∃ e, ((initial.run quoting).step
        (.read "q" (.failing (.refused reason)))).2.outcome = .error e ∧ e.IsParsing := by
  obtain ⟨readers, steps, -⟩ := read_run (s := initial.run quoting) rfl render_quoting
  have taken := (steps "q" .accepting rfl).2.2
  rw [((readers _ Reader.accepting.read).1 _).mpr ⟨by decide, rfl⟩] at taken
  refine ⟨taken, fun reason => ?_⟩
  obtain ⟨e, failed, parsing⟩ :=
    (readers _ (Reader.failing (.refused reason)).read).2.1.mpr (.inr ⟨reason, rfl⟩)
  have refused := (steps "q" (.failing (.refused reason)) rfl).2.2
  rw [failed] at refused
  exact ⟨e, refused, parsing⟩

/-- A reader that the quote in this text stops at its symbols stops the reading with no misuse. -/
theorem unreadable_quoting :
    (initial.run quoting).store.render 0 = .ok "SELECT id WHERE name = 'it's'" ∧
      ¬∃ e, ((initial.run quoting).step
        (.read "q" (.failing (.symbols "Missing '")))).2.outcome = .error e ∧ e.IsParsing := by
  refine ⟨render_quoting, ?_⟩
  rintro ⟨e, failed, cause, rfl, -⟩
  have bound : (initial.run quoting).names.lookup "q" = some (.builder 0) := rfl
  rw [outcome_read bound, Store.toExpression_of_ne rfl render_quoting (by decide)] at failed
  cases failed

end Session

end SelectBuilder
