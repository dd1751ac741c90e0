import SelectBuilder.Proofs.Logging.Reception
import SelectBuilder.Proofs.Session.Telling

/-!
# Events of named loggers

An event goes out on a logger that is asked for by name. A name that begins as that of the root is
taken as it is, so that some loggers lie outside the namespace and their events are lost. The events
of all other loggers are delivered while debugging records are wanted, unless a dot too many keeps
their parents from leading to the root.
-/
namespace SelectBuilder

open Logging

namespace Logging.State

variable {l : State}

@[simp] theorem correlation_asked (l : State) (name : String) :
    (l.asked name).correlation = l.correlation := by
  unfold asked
  split <;> rfl

@[simp] theorem setup_logger (l : State) (name : Option String) :
    (l.logger name).1.setup = l.setup := by
  cases name <;> rfl

@[simp] theorem correlation_logger (l : State) (name : Option String) :
    (l.logger name).1.correlation = l.correlation := by
  cases name <;> rfl

/-- A logger that is asked for a record does not change its mind. -/
theorem reports_asked (l : State) (name : String) :
    (l.asked name).reports name = l.reports name := by
  cases known : l.reports name with
  | true => rw [asked_of_reports known, known]
  | false =>
    have silenced : name ∈ (l.asked name).silent := by
      unfold asked
      split
      · simp_all
      · simp
    simp [reports, silenced]

theorem mem_loggers_logger (l : State) (name : String) :
    qualify name ∈ (l.logger (some name)).1.loggers := by
  simp only [logger]
  split
  · next known => simpa using known
  · simp

theorem loggers_logger {l : State} {name : String} (known : qualify name ∈ l.loggers) :
    (l.logger (some name)).1.loggers = l.loggers := by
  simp [logger, known]

/-- The name of a logger leads to the same logger, and none is made for it. -/
theorem logger_again (root : rootName ∈ l.loggers) (name : Option String) :
    ((l.logger name).1.logger (some (l.logger name).2)).2 = (l.logger name).2 ∧
      ((l.logger name).1.logger (some (l.logger name).2)).1.loggers =
        (l.logger name).1.loggers := by
  cases name with
  | none =>
    have kept : qualify rootName = rootName := qualify_of_isPrefix List.prefix_rfl
    have known : qualify rootName ∈ l.loggers := kept.symm ▸ root
    exact ⟨by simpa [logger] using kept, loggers_logger known⟩
  | some n =>
    have kept : qualify (qualify n) = qualify n := qualify_qualify n
    exact ⟨kept, loggers_logger (kept.symm ▸ l.mem_loggers_logger n)⟩

/-- Which names lead to loggers in the namespace. -/
theorem namespaced_logger (l : State) (name : Option String) :
    Namespaced (l.logger name).2 ↔
      ∀ n ∈ name, rootName.toList <+: n.toList → Namespaced n := by
  cases name with
  | none => exact iff_of_true (.inl rfl) nofun
  | some n => simpa [logger] using namespaced_qualify

theorem direct_logger (l : State) (name : Option String) :
    Direct (l.logger name).2 ↔
      ∀ n ∈ name, Direct n ∨ ¬ rootName.toList <+: n.toList ∧ n.toList.head? ≠ some '.' := by
  cases name with
  | none => exact iff_of_true (.inl rfl) nofun
  | some n => simpa [logger] using direct_qualify

end Logging.State

namespace Session

variable {s : Session} {name : Option String} {template : String} {args : List Value}
  {fields : List (String × Value)} {setup : Setup}

/-- The record of an event, with the correlation in force. -/
def eventRecord (s : Session) (name : Option String) (template : String) (args : List Value)
    (fields : List (String × Value)) : Record where
  logger := (s.logging.logger name).2
  level := debugLevel
  template := template
  args := args
  fields := setFields [] fields
  correlation := s.logging.correlation

theorem effect_event (proper : ∀ f ∈ fields, f.1 ≠ "logger" ∧ f.1 ≠ "message") :
    s.effect (.event name template args fields) =
      .ok (s.meet name, .text (s.logging.logger name).2,
        some ⟨{ s.eventRecord name template args fields with correlation := none }, s.store⟩) := by
  have free : (fields.any fun f => f.1 == "logger" || f.1 == "message") = false := by
    simpa using proper
  simp only [effect, runEvent, free]
  rfl

/-- An event that the logger lets go is delivered, and the others are not. -/
theorem delivery_event (proper : ∀ f ∈ fields, f.1 ≠ "logger" ∧ f.1 ≠ "message")
    (inForce : s.logging.setup = some setup) :
    (s.step (.event name template args fields)).2.delivery =
      if (s.logging.logger name).1.reports (s.logging.logger name).2 then
        State.deliver setup s.store (s.eventRecord name template args fields)
      else {} := by
  rw [delivery_step inForce, report?, effect_event proper]
  simp only [eventRecord, meet, Record.tagged, State.setup_asked, State.correlation_asked,
    State.setup_logger, State.correlation_logger, State.reports_asked, inForce, Option.isSome_some,
    Bool.true_and]
  by_cases heard : (s.logging.logger name).1.reports (s.logging.logger name).2 = true
  · rw [if_pos heard, if_pos heard]
    rfl
  · rw [if_neg heard, if_neg heard]
    rfl

/-- Every receiver that is set up gets the record of an event once if the logger lets it go. -/
theorem received_event (proper : ∀ f ∈ fields, f.1 ≠ "logger" ∧ f.1 ≠ "message")
    (inForce : s.logging.setup = some setup)
    (formats : (s.eventRecord name template args fields).Formats setup s.store) :
    if (s.logging.logger name).1.reports (s.logging.logger name).2 then
      Delivered setup s.store (s.eventRecord name template args fields)
        (s.step (.event name template args fields)).2.delivery
    else (s.step (.event name template args fields)).2.delivery = {} := by
  split
  · next heard =>
    rw [delivery_event proper inForce, if_pos heard]
    exact deliver_delivered formats
  · next unheard => rw [delivery_event proper inForce, if_neg unheard]

theorem failure_event (proper : ∀ f ∈ fields, f.1 ≠ "logger" ∧ f.1 ≠ "message")
    (inForce : s.logging.setup = some setup)
    (formats : (s.eventRecord name template args fields).Formats setup s.store) :
    (s.step (.event name template args fields)).2.delivery.failure = none := by
  have received := received_event proper inForce formats
  split at received
  · exact received.failure
  · rw [received]

theorem outcome_event (proper : ∀ f ∈ fields, f.1 ≠ "logger" ∧ f.1 ≠ "message")
    (sound : (s.step (.event name template args fields)).2.delivery.failure = none) :
    (s.step (.event name template args fields)).2.outcome =
      .ok (.text (s.logging.logger name).2) := by
  have made : s.effect (.event name template args fields) = _ := effect_event proper
  unfold step stepWith at sound ⊢
  rw [made] at sound ⊢
  dsimp only at sound ⊢
  split
  · next e failed => simp [failed] at sound
  · rfl

/-- What loggers are asked for by name, and which of their events arrive. The name of a logger lies
in the namespace of the root name unless it was asked for by one that begins as the root name and
does not go on with a dot. Asked for by its own name it is the same one, and no other is made. While
debugging records are wanted, an event of which a record can be laid out succeeds, and every
receiver that is set up gets it once if the logger lets it go, or else none gets it. A logger lets
events go if no dot comes first in what its name adds to the root name, and only those in the
namespace do. -/
theorem event_run (before : List Step) (name : Option String) :
    let t := initial.run before
    let q := (t.logging.logger name).2
    ((Namespaced q ↔ ∀ n ∈ name, rootName.toList <+: n.toList → Namespaced n) ∧
      (Direct q ↔
        ∀ n ∈ name, Direct n ∨ ¬ rootName.toList <+: n.toList ∧ n.toList.head? ≠ some '.')) ∧
      (((t.logging.logger name).1.logger (some q)).2 = q ∧
        ((t.logging.logger name).1.logger (some q)).1.loggers =
          (t.logging.logger name).1.loggers) ∧
      ∀ setup template args fields, t.logging.setup = some setup → setup.level = debugLevel →
        (∀ f ∈ fields, f.1 ≠ "logger" ∧ f.1 ≠ "message") →
        (t.eventRecord name template args fields).Formats setup t.store →
        let answer := (t.step (.event name template args fields)).2
        let reports := (t.logging.logger name).1.reports q
        answer.outcome = .ok (.text q) ∧
          (if reports then
              Delivered setup t.store (t.eventRecord name template args fields) answer.delivery
            else answer.delivery = {}) ∧
          (Direct q → reports = true) ∧ (reports = true → Namespaced q) := by
  intro t q
  have hears : t.logging.Hears fun _ => True := hears_run State.hears_initial before
  refine ⟨⟨t.logging.namespaced_logger name, t.logging.direct_logger name⟩,
    State.logger_again hears.root name, ?_⟩
  intro setup template args fields inForce level proper formats answer reports
  have debugs : (t.logging.logger name).1.Debugs := ⟨setup, by simpa using inForce, level⟩
  refine ⟨outcome_event proper (failure_event proper inForce formats),
    received_event proper inForce formats, ?_, ?_⟩
  · exact (hears.logger name).reports debugs trivial
  · exact fun heard => namespaced_of_isBelowRoot ((State.reports_iff debugs).mp heard).1

/-- Debugging records are wanted, as structured lines on the console, in a file and elsewhere. -/
def debugging : List Step := [.configure "DEBUG" true true true]

theorem event_run_late :
    Delivered ⟨10, true, true, true⟩ (initial.run debugging).store
      ((initial.run debugging).eventRecord (some "late") "Took %s" [.text "it"] [("n", .int 5)])
      ((initial.run debugging).step
        (.event (some "late") "Took %s" [.text "it"] [("n", .int 5)])).2.delivery := by
  obtain ⟨⟨-, direct⟩, -, events⟩ := event_run debugging (some "late")
  have message : ((initial.run debugging).eventRecord (some "late") "Took %s" [.text "it"]
      [("n", .int 5)]).message (initial.run debugging).store.resolver = .ok "Took it" := rfl
  have fields : ∀ f ∈ [("n", Value.int 5)], Text.isEncodable f.1 = true ∧
      ∃ t, (initial.run debugging).store.json f.2 = .ok t := by
    intro f among
    rw [List.mem_singleton.mp among]
    exact ⟨by decide, _, rfl⟩
  have line := structuredLine_isOk rfl rfl message (by decide) fields
  obtain ⟨-, received, heard, -⟩ := events ⟨10, true, true, true⟩ "Took %s" [.text "it"]
    [("n", .int 5)] rfl rfl (by decide) ⟨⟨_, message⟩, fun _ => line⟩
  have below : Direct ((initial.run debugging).logging.logger (some "late")).2 :=
    direct.mpr fun n asked => by
      cases asked
      exact .inr ⟨by decide, by decide⟩
  rwa [if_pos (heard below)] at received

/-- A name that begins as the root name leads out of the namespace, and one that begins with a dot
leads to a logger whose parent is the root of all loggers. Their events are lost. -/
theorem lost_events :
    ¬ Namespaced ((initial.run debugging).logging.logger (some "querychainfoo")).2 ∧
      ((initial.run debugging).step (.event (some "querychainfoo") "a" [] [])).2.delivery = {} ∧
      ((initial.run debugging).step (.event (some ".x") "a" [] [])).2.delivery = {} := by
  refine ⟨?_, by decide +kernel, by decide +kernel⟩
  rintro (same | ⟨rest, same⟩)
  · exact absurd same (by decide)
  · -- After the root name comes a letter where a dot should be.
    have eleventh := congrArg (fun n : String => n.toList[10]?) same
    simp only [String.toList_append] at eleventh
    cases eleventh

end Session

end SelectBuilder
