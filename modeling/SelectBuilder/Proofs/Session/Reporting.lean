import SelectBuilder.Proofs.Logging.StatementRecord
import SelectBuilder.Proofs.Session.Run

/-!
# Statements and their reports

What a session answers does not depend on what becomes of its reports. Loggers may be set up in any
way or not at all: as long as the dialects can be written, no report stops a step, and no step looks
at the loggers but those that are made for them.
-/
namespace SelectBuilder

open Outcome

/-- The steps that are about the loggers alone. -/
def Step.isReporting : Step → Bool
  | .correlate _ => true
  | .configure _ _ _ _ => true
  | .event _ _ _ _ => true
  | _ => false

namespace Session

variable {s t : Session} {x : Step}

/-- The same objects under the same names. -/
structure Same (s t : Session) : Prop where
  store : t.store = s.store
  names : t.names = s.names

theorem Same.symm (h : s.Same t) : t.Same s := ⟨h.store.symm, h.names.symm⟩

theorem Same.trans {u : Session} (h : s.Same t) (h' : t.Same u) : s.Same u :=
  ⟨h'.store.trans h.store, h'.names.trans h.names⟩

theorem Same.dialects (h : s.Same t) (dialects : s.store.HasDialects) : t.store.HasDialects :=
  h.store ▸ dialects

theorem Same.view (h : s.Same t) (subject : Option String) : t.view subject = s.view subject := by
  simp only [Session.view, h.store, h.names]

/-! ## Reporting steps -/

/-- A step for the loggers touches no object and no name, whether it succeeds or not. -/
theorem same_reporting (s : Session) (reporting : x.isReporting) : s.Same (s.step x).1 := by
  have none : s.request? x = none := by
    cases x <;> first | rfl | cases reporting
  rcases s.step_cases x none with ⟨store, names⟩ | ⟨done, result, report, made, store, names⟩
  · exact ⟨store, names⟩
  · suffices s.Same done from this.trans ⟨store, names⟩
    cases x with
    | correlate id =>
      cases made
      exact ⟨rfl, rfl⟩
    | configure level structured file extra =>
      obtain ⟨logging, -, made⟩ := bind_eq_ok.mp made
      cases made
      exact ⟨rfl, rfl⟩
    | event logger template args fields =>
      simp only [effect, runEvent] at made
      split at made <;> cases made
      exact ⟨rfl, rfl⟩
    | _ => cases reporting

/-! ## Other steps -/

/-- Another state of the loggers. -/
def withLogging (s : Session) (l : Logging.State) : Session := { s with logging := l }

theorem Same.withLogging (h : s.Same t) : s.withLogging t.logging = t := by
  cases t
  cases h.store
  cases h.names
  rfl

/-- The same effect, in another state of the loggers. -/
def relog (l : Logging.State) (e : Effect) : Effect := (e.1.withLogging l, e.2)

theorem bind_relog {α : Type} {l : Logging.State} {m : Outcome α} {f g : α → Outcome Effect}
    (same : ∀ a, g a = (f a).map (relog l)) : m >>= g = (m >>= f).map (relog l) := by
  cases m with
  | ok a => exact same a
  | error e => rfl

variable (s) (l : Logging.State)

theorem resolveConfig_withLogging (config : ConfigSource) :
    (s.withLogging l).resolveConfig config = s.resolveConfig config := by
  cases config <;> rfl

theorem resolveGiven_withLogging (config : Option ConfigSource) :
    (s.withLogging l).resolveGiven config = s.resolveGiven config := by
  cases config with
  | none => rfl
  | some c => simp only [resolveGiven, resolveConfig_withLogging]

theorem factoryConfig_withLogging (factory : Option String) :
    (s.withLogging l).factoryConfig factory = s.factoryConfig factory := by
  cases factory <;> rfl

theorem runBuild_withLogging (on : String) :
    (s.withLogging l).runBuild on = (s.runBuild on).map (relog l) :=
  bind_relog fun _ => bind_relog fun _ => rfl

theorem runInquiry_withLogging (on method : String) :
    (s.withLogging l).runInquiry on method = (s.runInquiry on method).map (relog l) := by
  refine bind_relog fun id => ?_
  split
  · rfl
  · rw [runBuild_withLogging]
    cases s.runBuild on <;> rfl
  · exact bind_relog fun _ => rfl

theorem runFactoryCall_withLogging (config : Nat) (method : String) (args : List Value)
    (named : List (String × Value)) :
    (s.withLogging l).runFactoryCall config method args named =
      (s.runFactoryCall config method args named).map (relog l) := by
  unfold runFactoryCall
  split
  · exact bind_relog fun _ => rfl
  · split
    · exact bind_relog fun _ => rfl
    · rfl

theorem runCall_withLogging (on method : String) (args : List Value)
    (named : List (String × Value)) :
    (s.withLogging l).runCall on method args named =
      (s.runCall on method args named).map (relog l) := by
  refine bind_relog fun _ => bind_relog fun handle => ?_
  cases handle with
  | builder id =>
    dsimp only
    split
    · exact runInquiry_withLogging s l on method
    · split
      · rfl
      · exact bind_relog fun _ => bind_relog fun _ => rfl
  | factory config => exact runFactoryCall_withLogging s l config method args named
  | config id => rfl

/-- A step that is not for the loggers does not look at their state. -/
theorem effect_withLogging (other : x.isReporting = false) :
    (s.withLogging l).effect x = (s.effect x).map (relog l) := by
  cases x with
  | new name config =>
    simp only [effect, runNew, resolveConfig_withLogging]
    exact bind_relog fun _ => rfl
  | config name fields => exact bind_relog fun _ => rfl
  | factory name config dialect =>
    simp only [effect, runFactory, resolveGiven_withLogging]
    exact bind_relog fun _ => rfl
  | select name factory columns dialect =>
    simp only [effect, runSelect, factoryConfig_withLogging]
    exact bind_relog fun _ => bind_relog fun _ => rfl
  | call on method args named => exact runCall_withLogging s l on method args named
  | copy on name => exact bind_relog fun _ => rfl
  | build on => exact runBuild_withLogging s l on
  | clauses on => exact bind_relog fun _ => bind_relog fun _ => rfl
  | quoted on =>
    refine bind_relog fun handle => ?_
    cases handle <;> first | rfl | exact bind_relog fun _ => rfl
  | text on => exact bind_relog fun _ => bind_relog fun _ => rfl
  | read on reader => exact bind_relog fun _ => bind_relog fun _ => rfl
  | assign on field value => exact bind_relog fun _ => rfl
  | settings on => exact bind_relog fun _ => rfl
  | equal a b => exact bind_relog fun _ => rfl
  | _ => cases other

variable {s l}

/-- No receiver fails on what an effect reports. -/
def Presents : Outcome Effect → Prop :=
  Gives fun e => ∀ report, e.2.2 = some report → report.record.Presentable

theorem presents_quiet (s : Session) (r : Result) : Presents (.ok (quiet s r)) :=
  gives_ok nofun

theorem presents_report {done : Session} {r : Result} {report : Store.Report}
    (h : report.record.Presentable) : Presents (.ok (done, r, some report)) := by
  refine gives_ok fun r reported => ?_
  cases reported
  exact h

theorem runBuild_presents (dialects : s.store.HasDialects) (on : String) :
    Presents (s.runBuild on) :=
  .bind fun _ _ => .bind fun _ built =>
    presents_report (Store.build_presentable dialects built)

theorem runInquiry_presents (dialects : s.store.HasDialects) (on method : String) :
    Presents (s.runInquiry on method) := by
  refine .bind fun id _ => ?_
  split
  · exact presents_quiet s .done
  · refine .bind fun e built => ?_
    rintro - ⟨⟩
    exact runBuild_presents dialects on e built
  · exact .bind fun _ _ => presents_quiet s .done

/-- Whatever a factory reports of the first clause of a builder can be presented. -/
theorem selectFrom_presents {k : Nat} {columns : List Value} {dialect : Value}
    {done : Store → Nat → Session} {f : Store × Nat × Option Store.Report → Outcome Effect}
    (made : ∀ t id report, f (t, id, report) = .ok (done t id, .done, report)) :
    Presents (s.store.selectFrom k columns dialect >>= f) := by
  refine .bind fun ⟨t, id, report⟩ selected => ?_
  rw [made]
  rintro - ⟨⟩
  exact (Store.selectFrom_eq_ok selected).2

theorem runFactoryCall_presents (config : Nat) (method : String) (args : List Value)
    (named : List (String × Value)) : Presents (s.runFactoryCall config method args named) := by
  unfold runFactoryCall
  split
  · exact selectFrom_presents fun _ _ _ => rfl
  · split
    · exact .bind fun _ _ => presents_quiet s .done
    · exact gives_error _

theorem runCall_presents (dialects : s.store.HasDialects) (on method : String) (args : List Value)
    (named : List (String × Value)) : Presents (s.runCall on method args named) := by
  refine .bind fun _ _ => .bind fun handle _ => ?_
  cases handle with
  | builder id =>
    dsimp only
    split
    · exact runInquiry_presents dialects on method
    · split
      · exact gives_error _
      · exact .bind fun _ _ => .bind fun _ called =>
          presents_report (Store.call_presentable called)
  | factory config => exact runFactoryCall_presents config method args named
  | config id => exact gives_error _

theorem effect_presents (dialects : s.store.HasDialects) (other : x.isReporting = false) :
    Presents (s.effect x) := by
  cases x with
  | new name config => exact .bind fun _ _ => presents_quiet _ .done
  | config name fields => exact .bind fun _ _ => presents_quiet _ .done
  | factory name config dialect => exact .bind fun _ _ => presents_quiet _ .done
  | select name factory columns dialect =>
    exact .bind fun _ _ => selectFrom_presents fun _ _ _ => rfl
  | call on method args named => exact runCall_presents dialects on method args named
  | copy on name => exact .bind fun _ _ => presents_quiet _ .done
  | build on => exact runBuild_presents dialects on
  | clauses on => exact .bind fun _ _ => .bind fun _ _ => presents_quiet s _
  | quoted on =>
    refine .bind fun handle _ => ?_
    cases handle with
    | factory config => exact gives_error _
    | _ => exact .bind fun _ _ => presents_quiet s _
  | text on => exact .bind fun _ _ => .bind fun _ _ => presents_quiet s _
  | read on reader => exact .bind fun _ _ => .bind fun _ _ => presents_quiet s _
  | assign on field value => exact .bind fun _ _ => presents_quiet _ _
  | settings on => exact .bind fun _ _ => presents_quiet s _
  | equal a b => exact .bind fun _ _ => presents_quiet s _
  | _ => cases other

/-- What a step comes to if no report stops it. -/
theorem step_of_presents (presents : Presents (s.effect x)) :
    (s.step x).2.outcome = s.effect x >>= (fun e => e.2.1.checked) ∧
      ((s.effect x).map Prod.fst |>.toOption.getD s).Same (s.step x).1 := by
  unfold step stepWith
  split
  · next e failed =>
    rw [failed]
    refine ⟨rfl, ?_⟩
    cases x <;> exact ⟨rfl, rfl⟩
  · next done result made =>
    rw [made]
    exact ⟨rfl, rfl, rfl⟩
  · next done result report made =>
    have delivered := Logging.State.failure_emit (presents _ made report rfl)
    simp only [delivered, made]
    exact ⟨rfl, rfl, rfl⟩

/-- On the same objects a step that is not for the loggers is answered the same, and leaves the same
objects. -/
theorem Same.step (h : s.Same t) (dialects : s.store.HasDialects) (other : x.isReporting = false) :
    (s.step x).2.outcome = (t.step x).2.outcome ∧ (s.step x).2.view = (t.step x).2.view ∧
      (s.step x).1.Same (t.step x).1 := by
  have effects : t.effect x = (s.effect x).map (relog t.logging) := by
    rw [← effect_withLogging s t.logging other, h.withLogging]
  obtain ⟨outcome, store, names⟩ := step_of_presents (effect_presents dialects other)
  obtain ⟨outcome', store', names'⟩ :=
    step_of_presents (effect_presents (h.dialects dialects) other)
  have same : (s.step x).1.Same (t.step x).1 := by
    rw [effects] at store' names'
    constructor
    · rw [store, store']
      cases s.effect x <;> first | rfl | exact h.store
    · rw [names, names']
      cases s.effect x <;> first | rfl | exact h.names
  refine ⟨?_, ?_, same⟩
  · rw [outcome, outcome', effects]
    cases s.effect x <;> rfl
  · rw [view_step, view_step, same.view]

/-! ## Runs -/

/-- What is seen of the steps of a run that are not for the loggers. -/
def replies (s : Session) : List Step → List (Outcome Result × Option View)
  | [] => []
  | x :: xs =>
    (if x.isReporting then [] else [((s.step x).2.outcome, (s.step x).2.view)]) ++
      (s.step x).1.replies xs

/-- The steps that are left when those for the loggers are deleted. -/
def unreported (xs : List Step) : List Step := xs.filter fun x => !x.isReporting

@[simp] theorem unreported_cons_of_reporting {xs : List Step} (reporting : x.isReporting) :
    unreported (x :: xs) = unreported xs := by
  simp [unreported, reporting]

@[simp] theorem unreported_cons_of_other {xs : List Step} (other : x.isReporting = false) :
    unreported (x :: xs) = x :: unreported xs := by
  simp [unreported, other]

/-- The dialects stay as they are meant to be when steps for the loggers are deleted. -/
theorem Same.always (h : s.Same t) {xs : List Step}
    (dialects : s.Always (·.store.HasDialects) xs) :
    t.Always (·.store.HasDialects) (unreported xs) := by
  induction xs generalizing s t with
  | nil => exact h.dialects dialects.start
  | cons x xs ih =>
    obtain ⟨now, later⟩ := dialects
    cases kind : x.isReporting with
    | true =>
      rw [unreported_cons_of_reporting kind]
      exact ih ((s.same_reporting kind).symm.trans h) later
    | false =>
      rw [unreported_cons_of_other kind]
      exact ⟨h.dialects now, ih (h.step now kind).2.2 later⟩

/-- A run is answered as if the steps for the loggers were not there. -/
theorem Same.replies (h : s.Same t) {xs : List Step}
    (dialects : t.Always (·.store.HasDialects) (unreported xs)) :
    s.replies xs = t.answers (unreported xs) ∧ (s.run xs).Same (t.run (unreported xs)) := by
  induction xs generalizing s t with
  | nil => exact ⟨rfl, h⟩
  | cons x xs ih =>
    cases kind : x.isReporting with
    | true =>
      rw [unreported_cons_of_reporting kind] at dialects ⊢
      simpa [Session.replies, kind] using ih ((s.same_reporting kind).symm.trans h) dialects
    | false =>
      rw [unreported_cons_of_other kind] at dialects ⊢
      obtain ⟨now, later⟩ := dialects
      obtain ⟨outcome, view, same⟩ := h.step (h.symm.dialects now) kind
      obtain ⟨replies, final⟩ := ih same later
      refine ⟨?_, final⟩
      simp only [Session.replies, kind, answers, outcome, view, replies]
      rfl

/-- Let two runs from one session differ only in the steps for the loggers, which may be any, and
let the dialects be absent or texts in the first run. Then the other steps are answered the same in
both, with the same views of their subjects, as they are if there are no steps for the loggers at
all; and the runs end with the same objects under the same names. -/
theorem replies_run {xs ys : List Step} (alike : unreported xs = unreported ys)
    (dialects : s.Always (·.store.HasDialects) xs) :
    s.replies xs = s.replies ys ∧ s.replies xs = s.answers (unreported xs) ∧
      (s.run xs).Same (s.run ys) := by
  have always := Same.always ⟨rfl, rfl⟩ dialects
  obtain ⟨replies, final⟩ := Same.replies (s := s) ⟨rfl, rfl⟩ always
  rw [alike] at always
  obtain ⟨replies', final'⟩ := Same.replies (s := s) ⟨rfl, rfl⟩ always
  rw [alike] at replies final
  exact ⟨replies.trans replies'.symm, alike ▸ replies, final.trans final'.symm⟩

/-- A statement that is built while every record is written. -/
def recorded : List Step :=
  [.configure "DEBUG" true true true, .new "q" (.fields [("dialect", .text "mysql")]),
    .call "q" "select" [.text "id"] [], .correlate (some "r1"), .build "q"]

/-- The same statement, with an event whose arguments do not fit its template. -/
def unrecorded : List Step :=
  [.new "q" (.fields [("dialect", .text "mysql")]), .event none "%d" [.text "x"] [],
    .call "q" "select" [.text "id"] [], .build "q"]

theorem replies_run_recorded :
    initial.replies recorded = initial.replies unrecorded ∧
      (initial.run recorded).Same (initial.run unrecorded) := by
  have dialects : initial.Always (·.store.HasDialects) recorded := by
    refine ⟨?_, ?_, ?_, ?_, ?_, ?_⟩ <;> show Store.HasDialects _ <;> decide +kernel
  obtain ⟨replies, -, final⟩ := @replies_run initial recorded unrecorded rfl dialects
  exact ⟨replies, final⟩

end Session

end SelectBuilder
