import SelectBuilder.Proofs.Logging.Readiness
import SelectBuilder.Proofs.Logging.Reception

/-!
# Setups that follow one another

A setup replaces the one before it with all its receivers, and a level that is not known replaces
nothing. As long as records come to loggers below the root name alone, a debugging record goes out
if and only if the level of the setup in force is the one for debugging.
-/
namespace SelectBuilder.Logging

open Outcome

/-- The names of the levels, with their numbers. -/
def levels : List (String × Nat) :=
  [("NOTSET", 0), ("DEBUG", debugLevel), ("INFO", 20), ("WARN", warningLevel),
    ("WARNING", warningLevel), ("ERROR", 40), ("CRITICAL", 50), ("FATAL", 50)]

/-- What the name of a level fails with if there is no such level: two names stand for something
that is no level, the others for nothing. -/
def levelFailure (name : String) : Failure :=
  if name = "BASIC_FORMAT" then .wrongValue
  else if name = "_STYLES" then .wrongType
  else .missingAttribute

theorem levelNamed_eq (name : String) :
    levelNamed name = match levels.lookup (Text.upper name) with
      | some n => .ok n
      | none => .error (levelFailure (Text.upper name)) := by
  unfold levelNamed
  generalize Text.upper name = word
  split
  case h_11 =>
    have unknown : levels.lookup word = none := by
      rw [List.lookup_eq_none_iff]
      simp_all [levels]
    rw [unknown]
    simp_all [levelFailure]
  all_goals rfl

theorem mem_levels {name : String} {n : Nat} (known : levels.lookup name = some n) :
    n ∈ levels.map Prod.snd := by
  obtain ⟨before, after, split, -⟩ := List.lookup_eq_some_iff.mp known
  rw [split]
  simp

/-! ## Receivers -/

theorem length_receivers (setup : Setup) : setup.receivers.length = setup.handlerCount := by
  unfold Setup.receivers Setup.handlerCount
  cases setup.file <;> cases setup.extra <;> rfl

/-- The receivers that a setup installs if it is the one of some number. -/
def Setup.handlers (setup : Setup) (number : Nat) : List Handler :=
  setup.receivers.map (Handler.mk number)

/-- What a receiver is told of a record. -/
def Receiver.told (setup : Setup) (s : Store) (x : Record) : Receiver → Delivery
  | console => State.write (setup.line s x) fun t => { console := [t] }
  | file => State.write (structuredLine s none x) fun t => { file := [t] }
  | extra => State.notice s x

/-- What receivers are told one after the other, until one of them fails. -/
def State.toldTo (handlers : List Handler) (setup : Setup) (s : Store) (x : Record) : Delivery :=
  handlers.foldl (fun d h => State.thenTo d true (h.receiver.told setup s x)) {}

theorem thenTo_empty (d : Delivery) : State.thenTo {} true d = d := by
  show Delivery.append {} d = d
  simp [Delivery.append]

/-- A record is delivered by telling the receivers of the setup. -/
theorem deliver_eq_toldTo (setup : Setup) (number : Nat) (s : Store) (x : Record) :
    State.deliver setup s x = State.toldTo (setup.handlers number) setup s x := by
  have unwanted (d e : Delivery) : State.thenTo d false e = d := rfl
  unfold State.deliver State.toldTo Setup.handlers Setup.receivers
  cases setup.file <;> cases setup.extra <;>
    simp [thenTo_empty, Receiver.told, Setup.line, unwanted]

namespace State

variable {l : State} {setup : Setup} {name : String} {made : List Setup}

/-! ## Setups that were made -/

/-- The last of the setups that were made is in force, with its own receivers and no others, and
since the first one nothing propagates. -/
structure Installed (made : List Setup) (l : State) : Prop where
  setup : l.setup = made.getLast?
  setups : l.setups = made.length
  handlers : l.handlers = made.getLast?.elim [] fun setup => setup.handlers made.length
  propagates : l.propagates = made.isEmpty

theorem installed_initial : ({} : State).Installed [] := ⟨rfl, rfl, rfl, rfl⟩

theorem Installed.asked (h : l.Installed made) (name : String) : (l.asked name).Installed made := by
  unfold State.asked
  split
  · exact h
  · exact ⟨h.setup, h.setups, h.handlers, h.propagates⟩

theorem Installed.logger (h : l.Installed made) (name : Option String) :
    (l.logger name).1.Installed made := by
  cases name
  · exact h
  · exact ⟨h.setup, h.setups, h.handlers, h.propagates⟩

/-- The state after a setup. -/
def installs (l : State) (setup : Setup) : State where
  setup := some setup
  setups := l.setups + 1
  handlers := setup.handlers (l.setups + 1)
  propagates := false
  correlation := l.correlation
  loggers := l.loggers
  stamping := l.stamping
  silent := []

theorem configure_eq (l : State) (level : String) (structured file extra : Bool) :
    l.configure level structured file extra = match levels.lookup (Text.upper level) with
      | some n => .ok (l.installs ⟨n, structured, file, extra⟩)
      | none => .error (levelFailure (Text.upper level)) := by
  rw [configure, levelNamed_eq]
  cases levels.lookup (Text.upper level) <;> rfl

theorem Installed.installs (h : l.Installed made) (setup : Setup) :
    (l.installs setup).Installed (made ++ [setup]) where
  setup := by simp [State.installs]
  setups := by simp [State.installs, h.setups]
  handlers := by simp [State.installs, h.setups]
  propagates := by simp [State.installs]

/-! ## Levels and delivery -/

/-- Debugging records are heard if they are wanted, and the level in force is one of those that have
a name. -/
structure Attentive (l : State) : Prop where
  root : rootName ∈ l.loggers
  level : ∀ setup, l.setup = some setup → setup.level ∈ levels.map Prod.snd
  heard : l.Debugs → l.silent = []

theorem attentive_initial : ({} : State).Attentive where
  root := List.mem_cons_self
  level := nofun
  heard := fun _ => rfl

theorem Attentive.reports (h : l.Attentive) (debugs : l.Debugs)
    (below : isBelowRoot l.loggers name = true) : l.reports name = true :=
  (reports_iff debugs).mpr ⟨below, by simp [h.heard debugs]⟩

/-- Under any other level no debugging record goes out. -/
theorem reports_eq_false (inForce : l.setup = some setup)
    (among : setup.level ∈ levels.map Prod.snd) (other : setup.level ≠ debugLevel) (name : String) :
    l.reports name = false := by
  have passes : ¬l.levelOf name ≤ debugLevel := by
    simp only [levelOf, inForce]
    simp only [levels, List.map_cons, List.map_nil, List.mem_cons, List.not_mem_nil, or_false]
      at among
    split
    · simp_all [debugLevel, warningLevel]
      omega
    · decide
  simp [State.reports, passes]

/-- As long as debugging records are not wanted, none goes out. -/
theorem emit_unwanted (among : ∀ setup, l.setup = some setup → setup.level ∈ levels.map Prod.snd)
    (unwanted : ¬l.Debugs) (s : Store) (x : Record) : l.emit s x = {} := by
  unfold emit
  split
  · next setup inForce =>
    have other : setup.level ≠ debugLevel := fun same => unwanted ⟨setup, inForce, same⟩
    simp [reports_eq_false inForce (among setup inForce) other]
  · rfl

theorem emit_reported (inForce : l.setup = some setup) {x : Record}
    (reports : l.reports x.logger = true) (s : Store) :
    l.emit s x = deliver setup s (x.tagged l.correlation) := by
  simp [emit, inForce, reports, Record.tagged]

theorem Attentive.asked (h : l.Attentive) (below : isBelowRoot l.loggers name = true) :
    (l.asked name).Attentive := by
  refine ⟨by simpa using h.root, fun setup inForce => h.level setup (by simpa using inForce),
    fun debugs => ?_⟩
  have wanted : l.Debugs := by simpa [Debugs] using debugs
  rw [asked_of_reports (h.reports wanted below), h.heard wanted]

theorem Attentive.logger (h : l.Attentive) (name : Option String) :
    (l.logger name).1.Attentive := by
  have hears : (l.logger name).1.Hears fun _ => False :=
    Hears.logger ⟨h.root, fun _ _ none => none.elim⟩ name
  refine ⟨hears.root, ?_, ?_⟩ <;> cases name
  · exact h.level
  · exact h.level
  · exact h.heard
  · exact h.heard

theorem Attentive.correlate (h : l.Attentive) (id : Option String) :
    ({ l with correlation := id } : State).Attentive := ⟨h.root, h.level, h.heard⟩

theorem Attentive.installs (h : l.Attentive) (among : setup.level ∈ levels.map Prod.snd) :
    (l.installs setup).Attentive where
  root := h.root
  level _ inForce := Option.some.inj inForce ▸ among
  heard _ := rfl

end State

end SelectBuilder.Logging
