import SelectBuilder.Proofs.Logging.Account
import SelectBuilder.Proofs.Logging.Readiness
import SelectBuilder.Proofs.Session.Reporting

/-!
# What steps report

A step reports at most one record, and what the record tells is what the step does to the
statements. The record goes to each receiver that the setup in force names, and a setup stays in
force until the next one.
-/
namespace SelectBuilder

open Outcome Logging

/-- The statement that a step finishes. -/
def Step.finishes? : Step → Option String
  | .build on => some on
  | .call on "build" _ _ => some on
  | _ => none

/-- The object that a step calls. -/
def Step.callee? : Step → Option String
  | .call on _ _ _ => some on
  | .build on => some on
  | _ => none

/-- The steps that set the loggers up. -/
def Step.isSetup : Step → Bool
  | .configure _ _ _ _ => true
  | _ => false

namespace Session

variable {s done : Session} {x : Step} {id : Nat} {result : Result} {report : Option Store.Report}

/-! ## What goes out with an effect -/

/-- What goes out with the effect of a step tells what the effect does to the statements. A result
that comes with it can be shown, unless the dialect of a finished statement cannot. -/
inductive Told (s : Session) (x : Step) (done : Session) : Result → Option Store.Report → Prop where
  | still {result : Result} (same : done.store.builders = s.store.builders) :
    Told s x done result none
  | fresh {result : Result} {config : Nat}
    (grown : done.store.builders = s.store.builders ++ [{ config := config }]) :
    Told s x done result none
  | copied {result : Result} (copy : x.isCopy) : Told s x done result none
  | selected {b : Builder} {clause : Clause} {during : Store}
    (grown : done.store.builders = s.store.builders ++ [b]) (clauses : b.clauses = [clause])
    (apart : ∀ on id, x.callee? = some on → s.names.lookup on ≠ some (.builder id)) :
    Told s x done .done (some ⟨added clause.keyword 1, during⟩)
  | finished {on : String} {id : Nat} {b : Builder} {sql : String} {result : Result}
    (asks : x.finishes? = some on) (bound : s.names.lookup on = some (.builder id))
    (found : s.store.builders[id]? = some b) (same : done = s)
    (shows : (s.store.configOf b).dialect.Presentable → ∃ v, result.checked = .ok v) :
    Told s x done result (some ⟨shown sql (s.store.configOf b).dialect, s.store⟩)
  | changed {id : Nat} {c : Call} (accepted : s.accepted? x = some (id, c)) {b : Builder}
    {change : Change} (found : s.store.builders[id]? = some b)
    (planned : b.plan (s.store.contextOf b) c = .ok change) {during : Store} :
    Told s x done .done
      (some ⟨b.recordOf (b.enter (s.store.configOf b).strict.isTrue change) change, during⟩)

end Session

namespace Store

variable {s done : Store}

/-- The first clause of a builder that has just been added is reported as such. -/
theorem call_newest_told {config : Nat} {columns : List Value} {report : Report}
    (h : (s.addBuilder { config := config }).1.call s.builders.length (.select columns) =
      .ok (done, report)) :
    ∃ b clause, done.builders = s.builders ++ [b] ∧ (b : Builder).clauses = [clause] ∧
      report.record = added clause.keyword 1 := by
  obtain ⟨b, change, found, planned, rfl, rfl⟩ := call_eq_ok.mp h
  have newest : b = { config := config } := by simpa [addBuilder] using found.symm
  subst newest
  obtain ⟨-, -, cs, -, rfl⟩ := Builder.planSelect_eq_ok.mp planned
  let settings := (s.addBuilder { config := config }).1.configOf { config := config }
  exact ⟨({ config := config } : Builder).apply settings.strict.isTrue (.append (.select cs)),
    .select cs, by simp [setBuilder, addBuilder, settings], rfl, rfl⟩

/-- A factory adds a fresh builder, or one with a single clause, which it reports. -/
theorem selectFrom_told {factory id : Nat} {columns : List Value} {dialect : Value}
    {report : Option Report} (h : s.selectFrom factory columns dialect = .ok (done, id, report)) :
    (∃ config, done.builders = s.builders ++ [{ config := config }] ∧ report = none) ∨
      ∃ b clause during, done.builders = s.builders ++ [b] ∧ (b : Builder).clauses = [clause] ∧
        report = some ⟨added clause.keyword 1, during⟩ := by
  unfold selectFrom at h
  dsimp only at h
  split at h
  · cases h
    exact .inl ⟨_, rfl, rfl⟩
  · obtain ⟨⟨t, r⟩, called, h⟩ := bind_eq_ok.mp h
    obtain ⟨b, clause, grown, clauses, record⟩ := call_newest_told called
    cases h
    exact .inr ⟨b, clause, r.during, grown, clauses, by rw [← record]⟩

end Store

namespace Session

variable {s done : Session} {x : Step} {id : Nat} {result : Result} {report : Option Store.Report}

/-- A statement is finished with one record of what it has come to. -/
theorem runBuild_eq {on : String} (h : s.runBuild on = .ok (done, result, report)) :
    ∃ id b sql, s.names.lookup on = some (.builder id) ∧ s.store.builders[id]? = some b ∧
      s.store.render id = .ok sql ∧ done = s ∧
      report = some ⟨shown sql (s.store.configOf b).dialect, s.store⟩ ∧
      ((s.store.configOf b).dialect.Presentable → ∃ v, result.checked = .ok v) := by
  obtain ⟨id, bound, h⟩ := bind_eq_ok.mp h
  obtain ⟨⟨rendered, r⟩, built, h⟩ := bind_eq_ok.mp h
  obtain ⟨b, inside, built⟩ := bind_eq_ok.mp built
  obtain ⟨sql, text, built⟩ := bind_eq_ok.mp built
  have found : s.store.builders[id]? = some b := by
    unfold Store.builder at inside
    split at inside
    · simp_all
    · cases inside
  cases built
  cases h
  refine ⟨id, b, sql, findBuilder_eq_ok.mp bound, found, text, rfl, rfl, fun dialect => ?_⟩
  obtain ⟨t, quoted⟩ := dialect.quoted s.store.quoted
  simp only [Result.checked, Rendered.quotedForm, quoted]
  exact ⟨_, rfl⟩

theorem runCall_told {on method : String} {args : List Value} {named : List (String × Value)}
    (h : s.effect (.call on method args named) = .ok (done, result, report)) :
    s.Told (.call on method args named) done result report := by
  cases asked : s.request? (.call on method args named) with
  | some p =>
    obtain ⟨id, c⟩ := p
    rw [effect_of_request asked] at h
    obtain ⟨⟨t, r⟩, called, same⟩ := map_eq_ok.mp h
    cases same
    obtain ⟨b, change, found, planned, -, rfl⟩ := Store.call_eq_ok.mp called
    exact .changed (accepted?_eq_some.mpr ⟨asked, t, _, called⟩) found planned
  | none =>
    -- What is asked of a builder beside the calls, a call that cannot be read, or one of a factory.
    have called : s.runCall on method args named = .ok (done, result, report) := h
    obtain ⟨-, -, h⟩ := bind_eq_ok.mp called
    obtain ⟨handle, found, h⟩ := bind_eq_ok.mp h
    have bound := find_eq_ok.mp found
    cases handle with
    | builder id =>
      rcases answers_call bound called with ⟨c, made⟩ | ⟨-, inquired⟩
      · rw [request?_call_eq_some.mpr ⟨bound, made⟩] at asked
        cases asked
      · obtain ⟨id, -, inquired⟩ := bind_eq_ok.mp inquired
        split at inquired
        · cases inquired
          exact .still rfl
        · obtain ⟨⟨t, res, rep⟩, built, inquired⟩ := bind_eq_ok.mp inquired
          cases inquired
          obtain ⟨id, b, sql, bound, found, -, same, rfl, -⟩ := runBuild_eq built
          exact .finished rfl bound found rfl fun _ => ⟨_, rfl⟩
        · obtain ⟨sql, -, inquired⟩ := bind_eq_ok.mp inquired
          cases inquired
          exact .still rfl
    | factory config =>
      have apart : ∀ on' id, (Step.call on method args named).callee? = some on' →
          s.names.lookup on' ≠ some (.builder id) := by
        intro on' id same
        cases same
        simp [bound]
      dsimp only [runFactoryCall] at h
      split at h
      · obtain ⟨⟨t, id, r⟩, selected, h⟩ := bind_eq_ok.mp h
        cases h
        rcases Store.selectFrom_told selected with ⟨config, grown, rfl⟩ |
          ⟨b, clause, during, grown, clauses, rfl⟩
        · exact .fresh grown
        · exact .selected grown clauses apart
      · split at h
        · obtain ⟨v, -, h⟩ := bind_eq_ok.mp h
          cases h
          exact .still rfl
        · cases h
    | config id => cases h

/-- A step that is not for the loggers leaves their state to the delivery. -/
theorem logging_effect (other : x.isReporting = false)
    (h : s.effect x = .ok (done, result, report)) : done.logging = s.logging := by
  have same : s.effect x = (s.effect x).map (relog s.logging) :=
    effect_withLogging s s.logging other
  rw [h] at same
  exact congrArg (fun e : Effect => e.1.logging) (Except.ok.inj same)

/-- Every effect of a step that is not for the loggers is told in one of these ways. -/
theorem effect_told (other : x.isReporting = false) (h : s.effect x = .ok (done, result, report)) :
    s.Told x done result report := by
  cases x with
  | new name config =>
    obtain ⟨⟨t, k⟩, resolved, h⟩ := bind_eq_ok.mp h
    have kept := resolveConfig_eq_ok resolved
    cases h
    exact .fresh (congrArg (· ++ [_]) kept)
  | config name fields =>
    obtain ⟨c, -, h⟩ := bind_eq_ok.mp h
    cases h
    exact .still rfl
  | factory name config dialect =>
    obtain ⟨⟨t, k⟩, resolved, h⟩ := bind_eq_ok.mp h
    cases h
    exact .still ((builders_makeFactory t k dialect).trans (resolveGiven_eq_ok resolved))
  | select name factory columns dialect =>
    obtain ⟨k, -, h⟩ := bind_eq_ok.mp h
    obtain ⟨⟨t, id, r⟩, selected, h⟩ := bind_eq_ok.mp h
    cases h
    rcases Store.selectFrom_told selected with ⟨config, grown, rfl⟩ |
      ⟨b, clause, during, grown, clauses, rfl⟩
    · exact .fresh grown
    · exact .selected grown clauses nofun
  | call on method args named => exact runCall_told h
  | copy on name =>
    obtain ⟨id, -, -, rfl⟩ := effect_copy h
    exact .copied rfl
  | build on =>
    obtain ⟨id, b, sql, bound, found, -, same, rfl, shows⟩ := runBuild_eq h
    exact .finished rfl bound found same shows
  | quoted on =>
    obtain ⟨rfl, rfl⟩ := runQuoted_eq_ok h
    exact .still rfl
  | clauses on | text on | read on reader =>
    obtain ⟨id, -, h⟩ := bind_eq_ok.mp h
    obtain ⟨v, -, h⟩ := bind_eq_ok.mp h
    cases h
    exact .still rfl
  | assign on field value | settings on =>
    obtain ⟨id, -, h⟩ := bind_eq_ok.mp h
    cases h
    exact .still rfl
  | equal a b =>
    obtain ⟨same, -, h⟩ := bind_eq_ok.mp h
    cases h
    exact .still rfl
  | _ => cases other

/-- Only a setup of the loggers changes what they are set up for. -/
theorem setup_effect (other : x.isSetup = false) (h : s.effect x = .ok (done, result, report)) :
    done.logging.setup = s.logging.setup := by
  cases reporting : x.isReporting with
  | false => exact congrArg Logging.State.setup (logging_effect reporting h)
  | true =>
    cases x with
    | event logger template args fields =>
      simp only [effect, runEvent] at h
      split at h <;> cases h
      cases logger <;> rfl
    | correlate id =>
      cases h
      rfl
    | configure level structured file extra => cases other
    | _ => cases reporting

/-- Nothing goes out with a setup. -/
theorem isSetup_eq_false {r : Store.Report} (h : s.effect x = .ok (done, result, some r)) :
    x.isSetup = false := by
  cases x with
  | configure level structured file extra =>
    obtain ⟨l, -, h⟩ := bind_eq_ok.mp h
    cases h
  | _ => rfl

/-- The report of a step that goes out to the receivers: what its effect reports, with the
correlation in force, if the logger lets it go. -/
def report? (s : Session) (x : Step) : Option Store.Report :=
  match s.effect x with
  | .ok (done, _, some r) =>
    let logging := done.logging.asked r.record.logger
    if logging.setup.isSome && logging.reports r.record.logger then
      some ⟨r.record.tagged logging.correlation, r.during⟩
    else none
  | _ => none

/-- Each receiver gets what goes out once, and nothing else. -/
theorem delivery_step {setup : Setup} (inForce : s.logging.setup = some setup) (x : Step) :
    (s.step x).2.delivery =
      (s.report? x).elim {} fun r => Logging.State.deliver setup r.during r.record := by
  cases made : s.effect x with
  | error e => simp [step, stepWith, report?, made, refuse]
  | ok p =>
    obtain ⟨done, result, report⟩ := p
    cases report with
    | none => simp [step, stepWith, report?, made]
    | some r =>
      have kept : (done.logging.asked r.record.logger).setup = some setup := by
        simp [setup_effect (isSetup_eq_false made) made, inForce]
      have sent : (done.logging.asked r.record.logger).emit r.during r.record =
          if (done.logging.asked r.record.logger).reports r.record.logger then
            Logging.State.deliver setup r.during
              (r.record.tagged (done.logging.asked r.record.logger).correlation)
          else {} := by
        simp only [Logging.State.emit, kept, Record.tagged]
      have received : (s.step x).2.delivery =
          (done.logging.asked r.record.logger).emit r.during r.record := by
        unfold step stepWith
        rw [made]
        dsimp only
        split <;> rfl
      unfold report?
      rw [received, sent, made]
      simp only [kept, Option.isSome_some, Bool.true_and]
      split <;> rfl

theorem hears_effect {names : String → Prop} (hears : s.logging.Hears names)
    (h : s.effect x = .ok (done, result, report)) : done.logging.Hears names := by
  cases other : x.isReporting with
  | false => rwa [logging_effect other h]
  | true =>
    cases x with
    | correlate id =>
      cases h
      exact hears.correlate id
    | configure level structured file extra =>
      obtain ⟨l, made, h⟩ := bind_eq_ok.mp h
      cases h
      exact hears.configure made
    | event logger template args fields =>
      simp only [effect, runEvent] at h
      split at h <;> cases h
      exact hears.logger logger
    | _ => cases other

/-- The loggers that let records go still do after a step. -/
theorem hears_step {names : String → Prop} (hears : s.logging.Hears names) (x : Step) :
    (s.step x).1.logging.Hears names := by
  unfold step stepWith
  split
  · cases x with
    | event logger template args fields => exact hears.logger logger
    | _ => exact hears
  · next done result made => exact hears_effect hears made
  · next done result report made =>
    dsimp only
    split <;> exact (hears_effect hears made).asked _

theorem hears_run {names : String → Prop} (hears : s.logging.Hears names) (xs : List Step) :
    (s.run xs).logging.Hears names := by
  induction xs generalizing s with
  | nil => exact hears
  | cons x xs ih => exact ih (hears_step hears x)

theorem ready_step (ready : s.logging.Ready) (x : Step) : (s.step x).1.logging.Ready :=
  State.ready_iff_hears.mpr (hears_step (State.ready_iff_hears.mp ready) x)

end Session

end SelectBuilder
