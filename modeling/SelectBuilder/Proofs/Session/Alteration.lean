import SelectBuilder.Proofs.Logging.Readiness
import SelectBuilder.Proofs.Session.Scope
import SelectBuilder.Proofs.Store.Sight

/-!
# What a step on a builder does

A step on a builder alters at most one thing: the builder, its configuration, or the number of
objects, when it is copied. What it alters, and what it answers, is the same in all stores that look
the same from the builder and the operands.
-/
namespace SelectBuilder

open Outcome

namespace Step

/-- The name of the builder that a step is made on. Of the steps that act on a builder these are
all; other steps make something new, compare two values, or are for the loggers. -/
def target? : Step → Option String
  | .call on _ _ _ => some on
  | .copy on _ => some on
  | .build on => some on
  | .clauses on => some on
  | .quoted on => some on
  | .text on => some on
  | .read on _ => some on
  | .assign on _ _ => some on
  | .settings on => some on
  | _ => none

def isAssignment : Step → Bool
  | .assign _ _ _ => true
  | _ => false

end Step

/-- A change to a session that one step on a builder makes. -/
inductive Alteration where
  | keep
  | builder (id : Nat) (b : Builder)
  | config (id : Nat) (c : Config)
  | copy (id : Nat) (name : String)

namespace Alteration

def store : Alteration → Store → Store
  | keep, s => s
  | builder id b, s => s.setBuilder id b
  | config id c, s => s.setConfig id c
  | copy id _, s => (s.copy id).1

/-- The name that is given to a copy. -/
def bindings : Alteration → Store → List (String × Handle)
  | copy id name, s => [(name, .builder (s.copy id).2)]
  | _, _ => []

def make (p : Alteration) (s : Session) : Session :=
  { s with store := p.store s.store, names := p.bindings s.store ++ s.names }

/-- An alteration that a step on a builder may make. -/
inductive By (s : Store) (x : Step) (a : Nat) : Alteration → Prop
  | keep (other : x.isCopy = false) : By s x a .keep
  | builder {b d : Builder} (other : x.isCopy = false) (found : s.builders[a]? = some b)
      (config : d.config = b.config) (inside : d.references ⊆ b.references ++ x.references) :
      By s x a (.builder a d)
  | config {b : Builder} {c : Config} (assigns : x.isAssignment) (found : s.builders[a]? = some b)
      (inside : c.references ⊆ (s.configOf b).references ++ x.references) :
      By s x a (.config b.config c)
  | copy {on name : String} (copies : x = .copy on name) : By s x a (.copy a name)

end Alteration

/-- A call makes the same change to a builder in stores that look the same from it. -/
theorem Store.Sees.call {s t : Store} {a : Nat} {refs : List Reference} {call : Call}
    (h : s.Sees a refs t) (known : call.references ⊆ refs) :
    (∃ e, s.call a call = .error e ∧ t.call a call = .error e) ∨
      ∃ b d report report', s.builders[a]? = some b ∧ d.config = b.config ∧
        d.references ⊆ b.references ++ refs ∧ s.call a call = .ok (s.setBuilder a d, report) ∧
        t.call a call = .ok (t.setBuilder a d, report') := by
  cases found : s.builders[a]? with
  | none =>
    refine .inl ⟨.unknownObject, ?_, ?_⟩
    · simp only [Store.call, Store.builder, found, error_bind]
    · simp only [Store.call, Store.builder, h.builder, found, error_bind]
  | some b =>
    have found' := h.builder.trans found
    have plans := h.plan found known
    cases planned : b.plan (s.contextOf b) call with
    | error e =>
      exact .inl ⟨e, call_eq_error found planned, call_eq_error found' (plans.trans planned)⟩
    | ok change =>
      refine .inr ⟨b, b.apply (s.configOf b).strict.isTrue change, _, _, rfl,
        Builder.config_apply .., ?_, call_eq_ok.mpr ⟨b, change, found, planned, rfl, rfl⟩,
        call_eq_ok.mpr ⟨b, change, found', plans.trans planned, by rw [h.configOf found], rfl⟩⟩
      intro x hx
      rcases List.mem_append.mp (Builder.references_apply planned _ hx) with old | new
      · exact List.mem_append_left _ old
      · exact List.mem_append_right _ (known new)

namespace Session

variable {s t : Session} {x : Step} {a : Nat} {on : String}

/-! ## Effects -/

/-- Two outcomes of one step in two sessions: one failure, or one alteration and one result. -/
def Alters (s t : Session) (x : Step) (a : Nat) (m n : Outcome Effect) : Prop :=
  (x.isCopy = false ∧ ∃ e, m = .error e ∧ n = .error e) ∨
    ∃ p result report report', Alteration.By s.store x a p ∧
      m = .ok (p.make s, result, report) ∧ n = .ok (p.make t, result, report')

theorem Alters.bind {α : Type} {m n : Outcome α} {f g : α → Outcome Effect}
    (other : x.isCopy = false) (same : m = n) (h : ∀ v, n = .ok v → s.Alters t x a (f v) (g v)) :
    s.Alters t x a (m >>= f) (n >>= g) := by
  subst same
  cases m with
  | ok v => exact h v rfl
  | error e => exact .inl ⟨other, e, rfl, rfl⟩

theorem alters_error (other : x.isCopy = false) (e : Failure) :
    s.Alters t x a (.error e) (.error e) := .inl ⟨other, e, rfl, rfl⟩

theorem alters_kept (other : x.isCopy = false) (result : Result)
    (report report' : Option Store.Report) :
    s.Alters t x a (.ok (s, result, report)) (.ok (t, result, report')) :=
  .inr ⟨.keep, result, report, report', .keep other, rfl, rfl⟩

variable (bound : s.names.lookup on = some (.builder a))
  (bound' : t.names.lookup on = some (.builder a))

include bound bound'

theorem find_seen : s.find on = t.find on := by
  rw [find_eq_ok.mpr bound, find_eq_ok.mpr bound']

theorem findBuilder_seen : s.findBuilder on = t.findBuilder on := by
  rw [findBuilder_eq_ok.mpr bound, findBuilder_eq_ok.mpr bound']

theorem findConfig_seen {refs : List Reference} (sees : s.store.Sees a refs t.store) :
    (∃ e, s.findConfig on = .error e ∧ t.findConfig on = .error e) ∨
      ∃ b, s.store.builders[a]? = some b ∧ s.findConfig on = .ok b.config ∧
        t.findConfig on = .ok b.config := by
  unfold Session.findConfig
  rw [find_eq_ok.mpr bound, find_eq_ok.mpr bound', ok_bind, ok_bind]
  simp only [sees.findBuilder]
  cases known : s.store.builder a with
  | error e => exact .inl ⟨e, rfl, rfl⟩
  | ok b => exact .inr ⟨b, Store.builder_eq_ok.mp known, rfl, rfl⟩

theorem runBuild_seen {refs : List Reference} (sees : s.store.Sees a refs t.store) :
    (∃ e, s.runBuild on = .error e ∧ t.runBuild on = .error e) ∨
      ∃ result report report', s.runBuild on = .ok (s, result, report) ∧
        t.runBuild on = .ok (t, result, report') := by
  unfold runBuild
  rw [findBuilder_eq_ok.mpr bound, findBuilder_eq_ok.mpr bound', ok_bind, ok_bind]
  rcases sees.build with ⟨e, failed, failed'⟩ | ⟨rendered, record, built, built', shown⟩
  · rw [failed, failed']
    exact .inl ⟨e, rfl, rfl⟩
  · rw [built, built']
    refine .inr ⟨_, _, some ⟨record, t.store⟩, rfl, ?_⟩
    simp only [ok_bind, shown]
    rfl

theorem runCall_seen {method : String} {args : List Value} {named : List (String × Value)}
    (sees : s.store.Sees a (args.flatMap Value.references ++ namedReferences named) t.store) :
    s.Alters t (.call on method args named) a (s.runCall on method args named)
      (t.runCall on method args named) := by
  have members : s.checkMember on method = t.checkMember on method := by
    simp only [checkMember, find_seen bound bound']
  refine .bind rfl members fun _ _ => .bind rfl (find_seen bound bound') fun handle found => ?_
  obtain rfl : handle = .builder a := by
    rw [find_eq_ok, bound'] at found
    exact (Option.some.inj found).symm
  dsimp only
  split
  · refine .bind rfl (findBuilder_seen bound bound') fun id known => ?_
    obtain rfl : id = a := by
      rw [findBuilder_eq_ok, bound'] at known
      exact (Handle.builder.inj (Option.some.inj known)).symm
    split
    · exact alters_kept rfl ..
    · rcases runBuild_seen bound bound' sees with ⟨e, failed, failed'⟩ |
        ⟨result, report, report', built, built'⟩
      · rw [failed, failed', error_bind, error_bind]
        exact alters_error rfl e
      · rw [built, built', ok_bind, ok_bind]
        exact alters_kept rfl ..
    · refine .bind rfl ?_ fun _ _ => alters_kept rfl ..
      rw [sees.render]
  · split
    · exact alters_error rfl _
    · refine .bind rfl rfl fun call made => ?_
      rcases sees.call (Call.references_ofMethod made) with ⟨e, failed, failed'⟩ |
        ⟨b, d, report, report', found, config, inside, called, called'⟩
      · simp only [failed, failed', error_bind]
        exact alters_error rfl e
      · simp only [called, called', ok_bind]
        have by' : Alteration.By s.store (.call on method args named) a (.builder a d) :=
          .builder rfl found config inside
        exact .inr ⟨_, .done, some report, some report', by', rfl, rfl⟩

theorem effect_seen (target : x.target? = some on)
    (sees : s.store.Sees a x.references t.store) : s.Alters t x a (s.effect x) (t.effect x) := by
  cases x with
  | call on' method args named =>
    cases target
    exact runCall_seen bound bound' sees
  | copy on' name =>
    cases target
    refine .inr ⟨.copy a name, .done, none, none, .copy rfl, ?_, ?_⟩
    · simp only [effect, findBuilder_eq_ok.mpr bound, ok_bind]
      rfl
    · simp only [effect, findBuilder_eq_ok.mpr bound', ok_bind]
      rfl
  | build on' =>
    cases target
    rcases runBuild_seen bound bound' sees with ⟨e, failed, failed'⟩ |
      ⟨result, report, report', built, built'⟩
    · rw [effect, effect, failed, failed']
      exact alters_error rfl e
    · rw [effect, effect, built, built']
      exact alters_kept rfl ..
  | clauses on' =>
    cases target
    simp only [effect, findBuilder_eq_ok.mpr bound, findBuilder_eq_ok.mpr bound', ok_bind]
    exact .bind rfl sees.clauseTexts.symm fun _ _ => alters_kept rfl ..
  | quoted on' =>
    cases target
    simp only [effect, runQuoted, find_eq_ok.mpr bound, find_eq_ok.mpr bound', ok_bind]
    exact .bind rfl sees.quoted.symm fun _ _ => alters_kept rfl ..
  | text on' =>
    cases target
    simp only [effect, runText, findBuilder_eq_ok.mpr bound, findBuilder_eq_ok.mpr bound', ok_bind]
    exact .bind rfl sees.render.symm fun _ _ => alters_kept rfl ..
  | read on' reader =>
    cases target
    simp only [effect, runRead, findBuilder_eq_ok.mpr bound, findBuilder_eq_ok.mpr bound', ok_bind]
    exact .bind rfl (sees.toExpression _).symm fun _ _ => alters_kept rfl ..
  | assign on' field value =>
    cases target
    rcases findConfig_seen bound bound' sees with ⟨e, failed, failed'⟩ | ⟨b, found, known, known'⟩
    · simp only [effect, runAssign, failed, failed', error_bind]
      exact alters_error rfl e
    · have same : t.store.configs.getD b.config {} = s.store.configs.getD b.config {} :=
        sees.configOf found
      simp only [effect, runAssign, known, known', ok_bind, same]
      exact .inr ⟨_, _, none, none, .config rfl found (Config.references_assign _ field value), rfl,
        rfl⟩
  | settings on' =>
    cases target
    rcases findConfig_seen bound bound' sees with ⟨e, failed, failed'⟩ | ⟨b, found, known, known'⟩
    · simp only [effect, failed, failed', error_bind]
      exact alters_error rfl e
    · have same : t.store.configs.getD b.config {} = s.store.configs.getD b.config {} :=
        sees.configOf found
      simp only [effect, known, known', ok_bind, same]
      exact alters_kept rfl ..
  | _ => cases target

omit bound bound'

/-! ## Steps -/

/-- What a step leaves when nobody receives its report. -/
structure Leaves (s : Session) (x : Step) (outcome : Outcome Result) (done : Session) : Prop where
  answer : (s.step x).2 = ⟨outcome, (s.step x).1.view (Step.subject? x), {}⟩
  store : (s.step x).1.store = done.store
  names : (s.step x).1.names = done.names
  unset : (s.step x).1.logging.setup = none

theorem leaves_error {e : Failure} (unset : s.logging.setup = none) (target : x.target? = some on)
    (failed : s.effect x = .error e) : s.Leaves x (.error e) s := by
  have same : s.afterFailure x = s := by
    cases x <;> first | rfl | cases target
  constructor <;> simp [step, stepWith, failed, same, refuse, unset]

theorem leaves_ok {done : Session} {result : Result} {report : Option Store.Report}
    (unset : done.logging.setup = none) (made : s.effect x = .ok (done, result, report)) :
    s.Leaves x result.checked done := by
  cases report with
  | none => constructor <;> simp [step, stepWith, made, unset]
  | some report =>
    have silent :
        (done.logging.asked report.record.logger).emit report.during report.record = {} := by
      rw [Logging.State.emit, Logging.State.setup_asked, unset]
    constructor <;> simp [step, stepWith, made, silent, unset]

/-- A step on a builder is answered alike in two sessions that look the same from there, and alters
the same in both. -/
theorem step_seen (unset : s.logging.setup = none) (unset' : t.logging.setup = none)
    (bound : s.names.lookup on = some (.builder a)) (bound' : t.names.lookup on = some (.builder a))
    (target : x.target? = some on) (sees : s.store.Sees a x.references t.store) :
    ∃ p outcome, Alteration.By s.store x a p ∧ s.Leaves x outcome (p.make s) ∧
      t.Leaves x outcome (p.make t) := by
  rcases effect_seen bound bound' target sees with ⟨other, e, failed, failed'⟩ |
    ⟨p, result, report, report', by', made, made'⟩
  · exact ⟨.keep, .error e, .keep other, leaves_error unset target failed,
      leaves_error unset' target failed'⟩
  · exact ⟨p, result.checked, by', leaves_ok unset made, leaves_ok unset' made'⟩

end Session

end SelectBuilder
