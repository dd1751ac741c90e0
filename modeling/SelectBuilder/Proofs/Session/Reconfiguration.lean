import SelectBuilder.Proofs.Logging.Reconfiguration
import SelectBuilder.Proofs.Session.Accounting
import SelectBuilder.Proofs.Session.Events

/-!
# Setups over runs

Whatever comes in between, the last setup and the last correlation id are in force. Under them every
record is delivered to the receivers of that setup, or under another level than that for debugging
to none.
-/
namespace SelectBuilder

open Outcome Logging

/-- The setup that a step makes, unless the level is unknown. -/
def Step.setup? : Step → Option Setup
  | .configure level structured file extra =>
    (levels.lookup (Text.upper level)).map fun n => ⟨n, structured, file, extra⟩
  | _ => none

/-- The correlation id that a step puts in force, which may be none. -/
def Step.correlation? : Step → Option (Option String)
  | .correlate id => some id
  | _ => none

/-- What a step makes of the loggers before its record comes to one of them. -/
def Step.prepares (l : Logging.State) : Step → Logging.State
  | .event name _ _ _ => (l.logger name).1
  | .correlate id => { l with correlation := id }
  | x => x.setup?.elim l l.installs

namespace Logging.State

variable {l : State} {made : List Setup}

theorem Installed.prepares (h : l.Installed made) (x : Step) :
    (x.prepares l).Installed (made ++ x.setup?.toList) := by
  cases x with
  | event name template args fields => simpa [Step.setup?, Step.prepares] using h.logger name
  | correlate id =>
    simp only [Step.setup?, Option.toList_none, List.append_nil]
    exact ⟨h.setup, h.setups, h.handlers, h.propagates⟩
  | configure level structured file extra =>
    cases known : (Step.configure level structured file extra).setup? with
    | none => simpa [Step.prepares, known] using h
    | some setup => simpa [Step.prepares, known] using h.installs setup
  | _ => simpa [Step.setup?, Step.prepares] using h

theorem correlation_prepares (l : State) (x : Step) :
    (x.prepares l).correlation = x.correlation?.getD l.correlation := by
  cases x with
  | event name template args fields => exact correlation_logger l name
  | configure level structured file extra =>
    cases known : (Step.configure level structured file extra).setup? <;>
      simp [Step.prepares, known, Step.correlation?, installs]
  | _ => rfl

theorem Attentive.prepares (h : l.Attentive) (x : Step) : (x.prepares l).Attentive := by
  cases x with
  | event name template args fields => exact h.logger name
  | correlate id => exact h.correlate id
  | configure level structured file extra =>
    cases known : (Step.configure level structured file extra).setup? with
    | none => simpa [Step.prepares, known] using h
    | some setup =>
      obtain ⟨n, found, rfl⟩ := Option.map_eq_some_iff.mp known
      simpa [Step.prepares, known] using h.installs (mem_levels found)
  | _ => exact h

end Logging.State

namespace Session

variable {s done : Session} {x : Step} {result : Result} {report : Option Store.Report}
  {r : Store.Report} {setup : Setup}

/-! ## What a step does to the loggers -/

/-- The record that a step emits, whether it goes out or not. -/
def emitted? (s : Session) (x : Step) : Option Store.Report :=
  match s.effect x with
  | .ok (_, _, report) => report
  | .error _ => none

theorem emitted?_eq_some :
    s.emitted? x = some r ↔ ∃ done result, s.effect x = .ok (done, result, some r) := by
  unfold emitted?
  split
  · next made => simp [made]
  · next failed => simp [failed]

theorem effect_configure (level : String) (structured file extra : Bool) :
    s.effect (.configure level structured file extra) =
      match levels.lookup (Text.upper level) with
      | some n => .ok (quiet { s with logging := s.logging.installs ⟨n, structured, file, extra⟩ }
          (.setup n (Setup.handlerCount ⟨n, structured, file, extra⟩)))
      | none => .error (levelFailure (Text.upper level)) := by
  simp only [effect, State.configure_eq]
  cases levels.lookup (Text.upper level) <;> rfl

theorem logging_prepares (made : s.effect x = .ok (done, result, report)) :
    done.logging = x.prepares s.logging := by
  cases reporting : x.isReporting with
  | false =>
    rw [logging_effect reporting made]
    cases x <;> first | rfl | cases reporting
  | true =>
    cases x with
    | correlate id =>
      cases made
      rfl
    | configure level structured file extra =>
      rw [effect_configure] at made
      cases known : levels.lookup (Text.upper level) with
      | none =>
        rw [known] at made
        cases made
      | some n =>
        rw [known] at made
        cases made
        simp [Step.prepares, Step.setup?, known]
    | event name template args fields =>
      simp only [effect, runEvent] at made
      split at made <;> cases made
      rfl
    | _ => cases reporting

theorem logging_afterFailure {e : Failure} (failed : s.effect x = .error e) :
    (s.afterFailure x).logging = x.prepares s.logging := by
  cases x with
  | correlate id => cases failed
  | configure level structured file extra =>
    rw [effect_configure] at failed
    cases known : levels.lookup (Text.upper level) with
    | none => simp [Step.prepares, Step.setup?, known, afterFailure]
    | some n =>
      rw [known] at failed
      cases failed
  | _ => rfl

/-- What becomes of the loggers in a step: what it makes of them, and then at most one record comes
to one of them. -/
theorem logging_step (s : Session) (x : Step) :
    (s.step x).1.logging = (s.emitted? x).elim (x.prepares s.logging) fun r =>
      (x.prepares s.logging).asked r.record.logger := by
  cases made : s.effect x with
  | error e => simpa [step, stepWith, emitted?, made] using logging_afterFailure made
  | ok p =>
    obtain ⟨done, result, report⟩ := p
    have prepared := logging_prepares made
    cases report with
    | none => simpa [step, stepWith, emitted?, made] using prepared
    | some r =>
      simp only [step, stepWith, emitted?, made, prepared]
      split <;> rfl

/-- With a record nothing is put in force. -/
theorem inForce_of_emitted (emitted : s.emitted? x = some r) :
    (x.prepares s.logging).setup = s.logging.setup ∧
      (x.prepares s.logging).correlation = s.logging.correlation := by
  obtain ⟨done, result, made⟩ := emitted?_eq_some.mp emitted
  cases x with
  | event name template args fields =>
    exact ⟨State.setup_logger s.logging name, State.correlation_logger s.logging name⟩
  | correlate id => cases made
  | configure level structured file extra => cases isSetup_eq_false made
  | _ => exact ⟨rfl, rfl⟩

/-! ## What is in force -/

theorem installed_run {made : List Setup} (installed : s.logging.Installed made) (xs : List Step) :
    (s.run xs).logging.Installed (made ++ xs.filterMap Step.setup?) := by
  induction xs generalizing s made with
  | nil => simpa using installed
  | cons x xs ih =>
    have first : (s.step x).1.logging.Installed (made ++ x.setup?.toList) := by
      rw [logging_step]
      cases s.emitted? x with
      | none => exact installed.prepares x
      | some r => exact (installed.prepares x).asked _
    have all : made ++ (x :: xs).filterMap Step.setup? =
        made ++ x.setup?.toList ++ xs.filterMap Step.setup? := by
      cases known : x.setup? <;> simp [known]
    rw [run_cons, all]
    exact ih first

/-- The last correlation id is in force. -/
theorem correlation_run (s : Session) (xs : List Step) :
    (s.run xs).logging.correlation =
      (xs.filterMap Step.correlation?).getLast?.getD s.logging.correlation := by
  induction xs generalizing s with
  | nil => simp
  | cons x xs ih =>
    have first : (s.step x).1.logging.correlation = x.correlation?.getD s.logging.correlation := by
      rw [logging_step, ← State.correlation_prepares]
      cases s.emitted? x with
      | none => rfl
      | some r => exact State.correlation_asked _ _
    rw [run_cons, ih, first]
    cases known : x.correlation? with
    | none => simp [known]
    | some id => simp [known, List.getLast?_cons]

/-! ## What goes out -/

/-- Whether the logger of an event lies below the root name once it is asked for. -/
def isBelow (s : Session) : Step → Bool
  | .event name _ _ _ =>
    isBelowRoot (s.logging.logger name).1.loggers (s.logging.logger name).2
  | _ => true

/-- Whether the loggers of all events in a run lie below the root name. -/
def staysBelow (s : Session) : List Step → Bool
  | [] => true
  | x :: xs => s.isBelow x && (s.step x).1.staysBelow xs

theorem isBelow_of_emitted (root : rootName ∈ s.logging.loggers) (below : s.isBelow x)
    (emitted : s.emitted? x = some r) :
    isBelowRoot (x.prepares s.logging).loggers r.record.logger = true := by
  obtain ⟨done, result, made⟩ := emitted?_eq_some.mp emitted
  cases reporting : x.isReporting with
  | false =>
    have same := logging_effect reporting made
    rw [logging_prepares made] at same
    rw [same, (effect_told reporting made).logger]
    exact direct_builderName.isBelowRoot root
  | true =>
    cases x with
    | event name template args fields =>
      simp only [effect, runEvent] at made
      split at made <;> cases made
      exact below
    | correlate id => cases made
    | configure level structured file extra => cases isSetup_eq_false made
    | _ => cases reporting

theorem attentive_step (attentive : s.logging.Attentive) (below : s.isBelow x) :
    (s.step x).1.logging.Attentive := by
  rw [logging_step]
  cases emitted : s.emitted? x with
  | none => exact attentive.prepares x
  | some r => exact (attentive.prepares x).asked (isBelow_of_emitted attentive.root below emitted)

theorem attentive_run {xs : List Step} (attentive : s.logging.Attentive) (below : s.staysBelow xs) :
    (s.run xs).logging.Attentive := by
  induction xs generalizing s with
  | nil => exact attentive
  | cons x xs ih =>
    obtain ⟨first, later⟩ := Bool.and_eq_true_iff.mp below
    exact ih (attentive_step attentive first) later

/-- The events of a run have loggers below the root name if their names surely lead there. -/
theorem staysBelow_of_direct {xs : List Step} (attentive : s.logging.Attentive)
    (direct : ∀ name template args fields, Step.event (some name) template args fields ∈ xs →
      Direct name ∨ ¬rootName.toList <+: name.toList ∧ name.toList.head? ≠ some '.') :
    s.staysBelow xs := by
  induction xs generalizing s with
  | nil => rfl
  | cons x xs ih =>
    have below : s.isBelow x := by
      cases x with
      | event name template args fields =>
        have hears : (s.logging.logger name).1.Hears fun _ => False :=
          State.Hears.logger ⟨attentive.root, fun _ _ none => none.elim⟩ name
        refine ((s.logging.direct_logger name).mpr fun n named => ?_).isBelowRoot hears.root
        exact direct n template args fields (by simp [Option.mem_def.mp named])
      | _ => rfl
    refine Bool.and_eq_true_iff.mpr ⟨below, ih (attentive_step attentive below) ?_⟩
    exact fun name template args fields later =>
      direct name template args fields (List.mem_cons_of_mem _ later)

theorem delivery_emitted (emitted : s.emitted? x = some r) :
    (s.step x).2.delivery =
      ((x.prepares s.logging).asked r.record.logger).emit r.during r.record := by
  obtain ⟨done, result, made⟩ := emitted?_eq_some.mp emitted
  simp only [step, stepWith, made, logging_prepares made]
  split <;> rfl

theorem delivery_silent (silent : s.emitted? x = none) : (s.step x).2.delivery = {} := by
  unfold emitted? at silent
  unfold step stepWith
  split
  · rfl
  · rfl
  · next made =>
    rw [made] at silent
    cases silent

/-- As long as debugging records are not wanted, none goes out. -/
theorem delivery_unwanted (attentive : s.logging.Attentive) (unwanted : ¬s.logging.Debugs)
    (x : Step) : (s.step x).2.delivery = {} := by
  cases emitted : s.emitted? x with
  | none => exact delivery_silent emitted
  | some r =>
    have kept := (inForce_of_emitted emitted).1
    rw [delivery_emitted emitted]
    refine State.emit_unwanted (fun setup inForce => attentive.level setup ?_) ?_ _ _
    · rwa [State.setup_asked, kept] at inForce
    · simpa [State.Debugs, kept] using unwanted

/-- While debugging records are wanted, what is emitted goes out with the correlation in force. -/
theorem delivery_wanted (attentive : s.logging.Attentive) (inForce : s.logging.setup = some setup)
    (level : setup.level = debugLevel) (below : s.isBelow x) (emitted : s.emitted? x = some r) :
    (s.step x).2.delivery =
      State.deliver setup r.during (r.record.tagged s.logging.correlation) := by
  obtain ⟨same, tagged⟩ := inForce_of_emitted emitted
  have inForce' : (x.prepares s.logging).setup = some setup := same.trans inForce
  have reports := (attentive.prepares x).reports ⟨setup, inForce', level⟩
    (isBelow_of_emitted attentive.root below emitted)
  rw [delivery_emitted emitted, State.asked_of_reports reports,
    State.emit_reported inForce' reports, tagged]

/-! ## What can be laid out -/

/-- A record of a change can be laid out, and one of a finished statement if its fields can be
written. -/
theorem Told.formats (told : s.Told x done result (some r)) {id : Option String}
    (encodable : ∀ t ∈ id, Text.isEncodable t = true)
    (json : x.finishes?.isSome → ∀ f ∈ r.record.fields, ∃ t, r.during.json f.2 = .ok t) :
    (r.record.tagged id).Formats setup r.during := by
  cases told with
  | @selected b clause => exact added_formats clause 1 encodable
  | finished asks => exact shown_formats (json (by simp [asks])) encodable
  | @changed id c accepted b change found planned =>
    cases change with
    | append clause => exact added_formats clause _ encodable
    | extend op part stage =>
      have admits : b.current?.isSome := (Builder.plan_admits planned).1
      obtain ⟨condition, current⟩ := Option.isSome_iff_exists.mp admits
      rw [Builder.recordOf_extend current]
      exact extended_formats condition (Builder.plain_of_extend planned) encodable

/-! ## Runs of setups -/

/-- What is delivered with a step. -/
structure Delivers (s : Session) (x : Step) : Prop where
  /-- Nothing goes out if nothing is emitted or debugging records are not wanted. -/
  silent : s.emitted? x = none ∨ ¬s.logging.Debugs → (s.step x).2.delivery = {}
  /-- Otherwise the receivers that are installed are told, each of them once, of the record with the
  correlation id in force. -/
  told : ∀ setup r, s.logging.setup = some setup → setup.level = debugLevel →
    s.emitted? x = some r →
    let record := r.record.tagged s.logging.correlation
    (s.step x).2.delivery = State.toldTo s.logging.handlers setup r.during record ∧
      (record.Formats setup r.during →
        Delivered setup r.during record (s.step x).2.delivery)
  /-- A record of a change can be laid out if the correlation id can be encoded, and one of a
  finished statement if its fields can be written as well. -/
  formats : ∀ setup r, x.isReporting = false → s.emitted? x = some r →
    (∀ t ∈ s.logging.correlation, Text.isEncodable t = true) →
    (x.finishes?.isSome → ∀ f ∈ r.record.fields, ∃ t, r.during.json f.2 = .ok t) →
    (r.record.tagged s.logging.correlation).Formats setup r.during

theorem delivers {made : List Setup} (installed : s.logging.Installed made)
    (attentive : s.logging.Attentive) (below : s.isBelow x) : s.Delivers x where
  silent
    | .inl silent => delivery_silent silent
    | .inr unwanted => delivery_unwanted attentive unwanted x
  told setup r inForce level emitted := by
    have last : made.getLast? = some setup := installed.setup.symm.trans inForce
    have handlers : s.logging.handlers = setup.handlers made.length := by
      rw [installed.handlers, last]
      rfl
    rw [delivery_wanted attentive inForce level below emitted, handlers]
    exact ⟨deliver_eq_toldTo setup _ _ _, deliver_delivered⟩
  formats setup r other emitted encodable json := by
    obtain ⟨done, result, made⟩ := emitted?_eq_some.mp emitted
    exact (effect_told other made).formats encodable json

theorem outcome_configure (s : Session) (level : String) (structured file extra : Bool) :
    (∀ n, levels.lookup (Text.upper level) = some n →
      (s.step (.configure level structured file extra)).2.outcome =
        .ok (.setup n (Setup.receivers ⟨n, structured, file, extra⟩).length)) ∧
      (levels.lookup (Text.upper level) = none →
        (s.step (.configure level structured file extra)).1 = s ∧
          (s.step (.configure level structured file extra)).2.outcome =
            .error (levelFailure (Text.upper level))) := by
  constructor
  · intro n known
    simp [step, stepWith, effect_configure, known, quiet, Result.checked, length_receivers]
  · intro unknown
    simp [step, stepWith, effect_configure, unknown, refuse, afterFailure]

theorem emitted?_event {name : Option String} {template : String} {args : List Value}
    {fields : List (String × Value)} (proper : ∀ f ∈ fields, f.1 ≠ "logger" ∧ f.1 ≠ "message") :
    ∃ r, s.emitted? (.event name template args fields) = some r ∧
      r.record.tagged s.logging.correlation = s.eventRecord name template args fields := by
  simp only [emitted?, effect_event proper]
  exact ⟨_, rfl, rfl⟩

theorem emitted?_accepted {id : Nat} {c : Call} (accepted : s.acceptedBy id x = some c) :
    (s.emitted? x).isSome := by
  obtain ⟨asked, t, report, called⟩ :=
    accepted?_eq_some.mp (acceptedBy_iff_accepted?.mp accepted)
  simp [emitted?, effect_called asked called]

/-- After any run the last setup that succeeded is in force, with its own receivers and no others,
and the last correlation id. A setup of an unknown level fails and changes nothing. An event emits
its record, and every accepted call emits one. As long as the loggers of all events lie below the
root name, what a step emits goes to each receiver that is installed if the level in force is the
one for debugging, with the correlation id in force, and to none under any other level or before the
first setup. -/
theorem reconfiguration_run (xs : List Step) :
    let t := initial.run xs
    (t.logging.Installed (xs.filterMap Step.setup?) ∧
      t.logging.correlation = (xs.filterMap Step.correlation?).getLast?.getD none) ∧
    (∀ level structured file extra,
      let x : Step := .configure level structured file extra
      (∀ n, levels.lookup (Text.upper level) = some n →
        (t.step x).2.outcome =
          .ok (.setup n (Setup.receivers ⟨n, structured, file, extra⟩).length)) ∧
      (levels.lookup (Text.upper level) = none →
        (t.step x).1 = t ∧
          (t.step x).2.outcome = .error (levelFailure (Text.upper level)))) ∧
    (∀ name template args fields, (∀ f ∈ fields, f.1 ≠ "logger" ∧ f.1 ≠ "message") →
      ∃ r, t.emitted? (.event name template args fields) = some r ∧
        r.record.tagged t.logging.correlation = t.eventRecord name template args fields) ∧
    (∀ x id c, t.acceptedBy id x = some c → (t.emitted? x).isSome) ∧
    (initial.staysBelow xs → ∀ x, t.isBelow x → t.Delivers x) := by
  intro t
  have installed : t.logging.Installed (xs.filterMap Step.setup?) :=
    installed_run (s := initial) State.installed_initial xs
  refine ⟨⟨installed, correlation_run initial xs⟩, outcome_configure t,
    fun _ _ _ _ => emitted?_event, fun _ _ _ => emitted?_accepted, fun below x here => ?_⟩
  have attentive : t.logging.Attentive :=
    attentive_run (s := initial) State.attentive_initial below
  exact delivers installed attentive here

/-- Setups that follow one another, one of them in vain. -/
def reconfigured : List Step :=
  [.configure "DEBUG" true true false, .correlate (some "r1"), .event (some "late") "a" [] [],
    .configure "LOUD" false false false, .correlate (some "r2"),
    .configure "debug" false false true]

theorem reconfiguration_run_twice :
    (initial.run reconfigured).logging.handlers = [⟨2, .console⟩, ⟨2, .extra⟩] ∧
      Delivered ⟨10, false, false, true⟩ (initial.run reconfigured).store
        ((initial.run reconfigured).eventRecord none "b" [] [])
        ((initial.run reconfigured).step (.event none "b" [] [])).2.delivery := by
  obtain ⟨⟨installed, -⟩, -, -, -, delivers⟩ := reconfiguration_run reconfigured
  have below : initial.staysBelow reconfigured := by
    refine staysBelow_of_direct State.attentive_initial fun name template args fields late => ?_
    obtain rfl : name = "late" := by simp_all [reconfigured]
    exact .inr (by decide)
  have last : reconfigured.filterMap Step.setup? =
      [⟨10, true, true, false⟩, ⟨10, false, false, true⟩] := by decide +kernel
  refine ⟨by rw [installed.handlers, last]; rfl, ?_⟩
  have message : ((initial.run reconfigured).eventRecord none "b" [] []).message
    (initial.run reconfigured).store.resolver = .ok "b" := rfl
  exact ((delivers below (.event none "b" [] []) (by decide +kernel)).told
    ⟨10, false, false, true⟩ _ (by rw [installed.setup, last]; rfl) rfl rfl).2
    ⟨⟨_, message⟩, fun asked => by simp at asked⟩

/-- A statement with a text that cannot be encoded. -/
def unwritable : List Step :=
  [.configure "DEBUG" true false false, .new "q" (.fields []),
    .call "q" "select" [.text (Text.ofCodePoints [0xd800])] []]

/-- Two names of what is no level fail otherwise than the others, and what cannot be laid out
reaches no receiver. -/
theorem failing_setups :
    (initial.step (.configure "BASIC_FORMAT" true false false)).2.outcome = .error .wrongValue ∧
      (initial.run unwritable).logging.handlers = [⟨1, .console⟩] ∧
      ((initial.run unwritable).emitted? (.build "q")).isSome ∧
      ((initial.run unwritable).step (.build "q")).2.delivery = {} := by
  have unknown : levels.lookup (Text.upper "BASIC_FORMAT") = none := by decide +kernel
  have failure : levelFailure (Text.upper "BASIC_FORMAT") = .wrongValue := by decide +kernel
  have installed := installed_run (s := initial) State.installed_initial unwritable
  have last : unwritable.filterMap Step.setup? = [⟨10, true, false, false⟩] := by decide +kernel
  refine ⟨?_, ?_, by decide +kernel, by decide +kernel⟩
  · rw [((initial.outcome_configure "BASIC_FORMAT" true false false).2 unknown).2, failure]
  · rw [installed.handlers, List.nil_append, last]
    rfl

end Session

end SelectBuilder
