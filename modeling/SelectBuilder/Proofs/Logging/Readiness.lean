import SelectBuilder.Proofs.Logging.ChangeRecord
import SelectBuilder.Proofs.Logging.Namespace

/-!
# Loggers that are ready

While debugging records are wanted, those of a logger that surely lies below the root name go out,
such as those of the builders. It is never silenced at that level: it can only have been silenced
before, and a new setup ends that.
-/
namespace SelectBuilder.Logging

theorem direct_builderName : Direct builderName := .inr ⟨"builder", rfl, by decide⟩

namespace State

variable {l : State} {names : String → Prop}

/-- Debugging records are wanted. -/
def Debugs (l : State) : Prop := ∃ setup, l.setup = some setup ∧ setup.level = debugLevel

/-- The logger of the builders lets records go if debugging records are wanted. -/
structure Ready (l : State) : Prop where
  root : rootName ∈ l.loggers
  heard : l.Debugs → builderName ∉ l.silent

/-- Of some names, the loggers of those that surely lie below the root name let records go if
debugging records are wanted. -/
structure Hears (names : String → Prop) (l : State) : Prop where
  root : rootName ∈ l.loggers
  heard : l.Debugs → ∀ name, names name → Direct name → name ∉ l.silent

theorem ready_iff_hears : l.Ready ↔ l.Hears (· = builderName) := by
  constructor
  · rintro ⟨root, heard⟩
    exact ⟨root, fun debugs name same _ => same ▸ heard debugs⟩
  · rintro ⟨root, heard⟩
    exact ⟨root, fun debugs => heard debugs _ rfl direct_builderName⟩

theorem reports_iff (debugs : l.Debugs) {name : String} :
    l.reports name = true ↔ isBelowRoot l.loggers name = true ∧ name ∉ l.silent := by
  obtain ⟨setup, inForce, level⟩ := debugs
  cases below : isBelowRoot l.loggers name <;>
    simp [State.reports, levelOf, inForce, below, level, debugLevel, warningLevel]

theorem Hears.reports (hears : l.Hears names) (debugs : l.Debugs) {name : String}
    (among : names name) (direct : Direct name) : l.reports name = true :=
  (reports_iff debugs).mpr ⟨direct.isBelowRoot hears.root, hears.heard debugs _ among direct⟩

theorem Ready.reports (ready : l.Ready) (debugs : l.Debugs) : l.reports builderName = true :=
  (ready_iff_hears.mp ready).reports debugs rfl direct_builderName

@[simp] theorem setup_asked (l : State) (name : String) : (l.asked name).setup = l.setup := by
  unfold asked
  split <;> rfl

@[simp] theorem loggers_asked (l : State) (name : String) :
    (l.asked name).loggers = l.loggers := by
  unfold asked
  split <;> rfl

theorem asked_of_reports {name : String} (reports : l.reports name = true) : l.asked name = l := by
  simp [asked, reports]

/-- A logger that drops a record is silenced, and no other one. -/
theorem mem_silent_asked {name other : String} (h : other ∈ (l.asked name).silent) :
    other ∈ l.silent ∨ other = name ∧ l.reports name = false := by
  unfold asked at h
  split at h
  · exact .inl h
  · next quiet =>
    rcases List.mem_append.mp h with old | new
    · exact .inl old
    · exact .inr ⟨List.mem_singleton.mp new, by simp_all⟩

theorem Hears.asked (hears : l.Hears names) (name : String) : (l.asked name).Hears names := by
  refine ⟨by simpa using hears.root, fun debugs other among direct silent => ?_⟩
  have wanted : l.Debugs := by simpa [Debugs] using debugs
  rcases mem_silent_asked silent with old | ⟨rfl, refused⟩
  · exact hears.heard wanted _ among direct old
  · rw [hears.reports wanted among direct] at refused
    cases refused

theorem Hears.logger (hears : l.Hears names) (name : Option String) :
    (l.logger name).1.Hears names := by
  cases name with
  | none => exact hears
  | some n =>
    refine ⟨?_, hears.heard⟩
    show rootName ∈ if l.loggers.contains (qualify n) then l.loggers else l.loggers ++ [qualify n]
    split
    · exact hears.root
    · exact List.mem_append_left _ hears.root

theorem Hears.correlate (hears : l.Hears names) (id : Option String) :
    ({ l with correlation := id } : State).Hears names := ⟨hears.root, hears.heard⟩

/-- A new setup ends all silence. -/
theorem Hears.configure (hears : l.Hears names) {level : String} {structured file extra : Bool}
    {after : State} (made : l.configure level structured file extra = .ok after) :
    after.Hears names := by
  obtain ⟨n, -, made⟩ := Outcome.bind_eq_ok.mp made
  cases made
  exact ⟨hears.root, fun _ _ _ _ => List.not_mem_nil⟩

theorem hears_initial : ({} : State).Hears names :=
  ⟨List.mem_cons_self, fun _ _ _ _ => List.not_mem_nil⟩

end State

end SelectBuilder.Logging
