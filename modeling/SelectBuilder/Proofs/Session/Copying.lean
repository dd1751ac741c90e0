import SelectBuilder.Proofs.Session.Frame
import SelectBuilder.Proofs.Session.Loosening
import SelectBuilder.Proofs.Session.Scope
import SelectBuilder.Proofs.Store.Twins

/-!
# Copies over runs

A copy of a builder goes on like the builder itself. What is done to the objects from before the
copy does not touch it, nor does what is done to the copy touch them.
-/
namespace SelectBuilder

namespace Session

variable {s u v : Session} {f g : Nat → Nat} {X : Reference → Prop} {i : Nat} {on name : String}
  {q : Request}

/-! ## The same requests on twins -/

/-- Two sessions, in each of which one of two twins has a name. -/
structure Twins (f g : Nat → Nat) (X : Reference → Prop) (i : Nat) (on name : String)
    (u v : Session) : Prop where
  store : u.store.Twins f g X v.store
  inside : X (.builder i)
  named : u.names.lookup on = some (.builder i)
  named' : v.names.lookup name = some (.builder (f i))

theorem Twins.view (h : u.Twins f g X i on name v) : u.view (some on) = v.view (some name) := by
  obtain ⟨b, d, found, found', twin, -⟩ := h.store.builder i h.inside
  simp only [Session.view, Option.bind_some, h.named, h.named', found, found', Option.map_some,
    h.store.render h.inside, twin.stage, twin.clauses.length_eq]

/-- A request for no call is refused before anything is done. -/
theorem step_unmade {e : Failure} (named : s.names.lookup on = some (.builder i))
    (method : q.method ∈ methods.map Prod.fst)
    (unmade : Call.ofMethod q.method q.args q.named = .error e) :
    (s.step (q.on on)).1 = s ∧ (s.step (q.on on)).2.outcome = .error e := by
  have failed : s.effect (q.on on) = .error e :=
    (runCall_method named method).trans (by rw [unmade, Outcome.error_bind])
  simp only [step, stepWith, failed]
  exact ⟨rfl, rfl⟩

theorem Twins.step (h : u.Twins f g X i on name v) (plain : q.Plain) :
    (u.step (q.on on)).2.outcome = (v.step (q.on name)).2.outcome ∧
      (u.step (q.on on)).1.Twins f g X i on name (v.step (q.on name)).1 := by
  cases made : Call.ofMethod q.method q.args q.named with
  | error e =>
    obtain ⟨same, outcome⟩ := step_unmade h.named plain.method made
    obtain ⟨same', outcome'⟩ := step_unmade h.named' plain.method made
    exact ⟨outcome.trans outcome'.symm, by rwa [same, same']⟩
  | ok c =>
    have free (k : Nat) : Reference.builder k ∉ c.references := fun inside =>
      plain.free k (Call.references_ofMethod made inside)
    have asked : u.request? (q.on on) = some (i, c) := request?_call_eq_some.mpr ⟨h.named, made⟩
    have asked' : v.request? (q.on name) = some (f i, c) :=
      request?_call_eq_some.mpr ⟨h.named', made⟩
    obtain ⟨b, d, found, found', twin, checks⟩ := h.store.builder i h.inside
    have plans := h.store.plan twin checks free
    cases planned : b.plan (u.store.contextOf b) c with
    | error e =>
      obtain ⟨same, outcome⟩ := step_refused asked (Store.call_eq_error found planned)
      obtain ⟨same', outcome'⟩ :=
        step_refused asked' (Store.call_eq_error found' (plans.symm.trans planned))
      exact ⟨outcome.trans outcome'.symm, by rwa [same, same']⟩
    | ok change =>
      obtain ⟨store, names, outcome⟩ := step_called asked
        (Store.call_eq_ok.mpr ⟨b, change, found, planned, rfl, rfl⟩)
      obtain ⟨store', names', outcome'⟩ := step_called asked'
        (Store.call_eq_ok.mpr ⟨d, change, found', plans.symm.trans planned, rfl, rfl⟩)
      rw [checks.strict] at store'
      refine ⟨outcome.trans outcome'.symm, ?_, h.inside, by rw [names, h.named],
        by rw [names', h.named']⟩
      rw [store, store']
      refine h.store.setBuilder h.inside found found' (Builder.config_apply ..)
        (Builder.config_apply ..) (twin.apply (fun clause is k inside => ?_) _) checks
      subst is
      exact free k (Builder.plan_references planned inside)

theorem Twins.answers (h : u.Twins f g X i on name v) {requests : List Request}
    (plain : ∀ q ∈ requests, q.Plain) :
    u.answers (requests.map (·.on on)) = v.answers (requests.map (·.on name)) := by
  induction requests generalizing u v with
  | nil => rfl
  | cons q rest ih =>
    obtain ⟨first, others⟩ := List.forall_mem_cons.mp plain
    obtain ⟨outcome, twins⟩ := h.step first
    have views : (u.step (q.on on)).2.view = (v.step (q.on name)).2.view :=
      (u.view_step _).trans (twins.view.trans (v.view_step _).symm)
    simp only [List.map_cons, Session.answers, outcome, views, ih twins others]

/-! ## A builder and its copy -/

/-- The session after a named builder is copied. -/
def copied (s : Session) (on name : String) : Session := (s.step (.copy on name)).1

/-- A session that a run leads to. The operands of its steps refer to objects that are there. -/
def Reachable (s : Session) : Prop := ∃ before, initial.Knows before ∧ initial.run before = s

theorem Reachable.scoped (h : s.Reachable) : s.Scoped := by
  obtain ⟨before, knows, rfl⟩ := h
  exact scoped_initial.run knows

/-- Let a builder of a reachable session be copied. The copy answers all requests like the builder
itself, if nothing that the builder keeps is shown differently for being made anew. Whatever is
called on or assigned to the objects from before, all that was added by the copy stays as it is, and
keeps its text; and the other way round. A builder that leads to itself has a copy that leads to
itself, and no copy leads to anything from before. -/
theorem copy_run (reachable : s.Reachable) {id : Nat}
    (found : s.names.lookup on = some (.builder id)) :
    ∃ id', (s.copied on name).names.lookup name = some (.builder id') ∧
      (s.store.Steady id → ∀ on' (requests : List Request),
        (s.copied on name).names.lookup on' = some (.builder id) → (∀ q ∈ requests, q.Plain) →
        (s.copied on name).answers (requests.map (·.on name)) =
          (s.copied on name).answers (requests.map (·.on on'))) ∧
      (∀ later, (∀ x ∈ later, (s.copied on name).Acts (· ∈ s.store.references) x) →
        (s.copied on name).store.Spares (· ∉ s.store.references)
          ((s.copied on name).run later).store) ∧
      (∀ later, (∀ x ∈ later, (s.copied on name).Acts (· ∉ s.store.references) x) →
        (s.copied on name).store.Spares (· ∈ s.store.references)
          ((s.copied on name).run later).store) ∧
      (Relation.TransGen s.store.Links (.builder id) (.builder id) →
        Relation.TransGen (s.copied on name).store.Links (.builder id') (.builder id')) ∧
      ∀ x, Relation.ReflTransGen (s.copied on name).store.Links (.builder id') x →
        x ∉ s.store.references := by
  have scope := reachable.scoped
  have inside : .builder id ∈ s.store.references := scope.lookup found
  have self : .builder id ∈ s.store.reached (.builder id) := s.store.mem_within_self _ _
  have moved := scope.store.moved inside
  have new := scope.store.copy_apart inside
  have old : (s.store.copy id).1.Closed (· ∈ s.store.references) :=
    (s.store.keeps_copy id).closed scope.store.closed
  obtain ⟨store, names⟩ := @step_copy s on name id found
  have named : (s.copied on name).names.lookup name =
      some (.builder (s.store.builderPlace id id)) := by
    simp [copied, names, Store.copy_eq]
  have same : (s.copied on name).store = (s.store.copy id).1 := store
  refine ⟨_, named, fun steady on' requests bound plain => ?_, fun later acts => ?_,
    fun later acts => ?_, fun cycle => ?_, fun x leads => ?_⟩
  · have twins := scope.store.copy_twins inside steady
    rw [← same] at twins
    exact (Twins.answers ⟨twins, self, bound, named⟩ plain).symm
  · exact (acts_run acts).2.spares (same ▸ new)
  · have keeps := (acts_run acts).2.mono fun x hx => not_not_intro hx
    exact keeps.spares (same ▸ old)
  · rw [same]
    exact moved.leads self cycle
  · rw [same] at leads
    exact new.leads (Store.map_copy_fresh self) leads

/-- A statement with another one as its table. -/
def nesting : List Step :=
  [.new "inner" (.fields []), .call "inner" "select" [.text "id"] [], .new "q" (.fields []),
    .call "q" "select" [.text "id"] [], .call "q" "from_" [.reference (.builder 0)] []]

def nested : Session := initial.run nesting

theorem copy_run_nested :
    (nested.copied "q" "c").answers [.call "c" "limit" [.int 5] []] =
        (nested.copied "q" "c").answers [.call "q" "limit" [.int 5] []] ∧
      ((nested.copied "q" "c").run [.call "inner" "limit" [.int 5] []]).store.render 2 =
        (nested.copied "q" "c").store.render 2 := by
  have reachable : nested.Reachable := by
    refine ⟨nesting, ?_, rfl⟩
    simp only [Knows, nesting, Step.references, ConfigSource.references, namedReferences]
    decide +kernel
  have clauses : (nested.store.builders.all fun b => b.clauses.all fun c => c.values.all fun v =>
      v.parts.all fun w => w.keepsText && w.keepsForm) = true := by decide +kernel
  have settings : (nested.store.configs.all fun c => c.fields.all fun f =>
      f.2.parts.all Value.keepsForm) = true := by decide +kernel
  simp only [List.all_eq_true, Bool.and_eq_true] at clauses settings
  have steady : nested.store.Steady 1 := by
    refine ⟨fun i b _ found c hc v hv => ?_, fun k c _ found => ?_⟩
    · have kept := clauses b (List.mem_of_getElem? found) c hc v hv
      exact ⟨fun w hw => (kept w hw).1, fun w hw => (kept w hw).2⟩
    · exact settings c (List.mem_of_getElem? found)
  obtain ⟨id', named, same, spared, -⟩ :=
    @copy_run nested "q" "c" reachable 1 (by decide +kernel)
  have acts : ∀ x ∈ [Step.call "inner" "limit" [.int 5] []],
      (nested.copied "q" "c").Acts (· ∈ nested.store.references) x := by
    intro x hx
    obtain rfl := List.mem_singleton.mp hx
    exact ⟨0, by decide +kernel, by decide +kernel⟩
  have limit : ∀ q ∈ [(⟨"limit", [.int 5], []⟩ : Request)], q.Plain := by
    intro q hq
    obtain rfl := List.mem_singleton.mp hq
    exact ⟨by decide, by simp [Request.references, Value.references]⟩
  exact ⟨same steady "q" [⟨"limit", [.int 5], []⟩] (by decide +kernel) limit,
    (spared _ acts).text 2 (by decide +kernel)⟩

/-- An error with a text besides its detail stands for a table. -/
def scolding : List Step :=
  [.new "b" (.fields []), .call "b" "select" [.text "id"] [],
    .call "b" "from_" [.problem ⟨.base, "QueryChainError", "one", ["two"], none⟩] []]

/-- The error has lost that text in the copy. -/
theorem copy_run_scolding :
    (initial.run scolding).Reachable ∧
      (initial.run scolding).store.render 0 = .ok "SELECT id FROM two one" ∧
      ((initial.run scolding).copied "b" "c").store.render 1 = .ok "SELECT id FROM one" ∧
      ((initial.run scolding).copied "b" "c").answers [.call "c" "limit" [.int 5] []] ≠
        ((initial.run scolding).copied "b" "c").answers [.call "b" "limit" [.int 5] []] := by
  refine ⟨⟨scolding, ?_, rfl⟩, by decide +kernel, by decide +kernel, fun same => ?_⟩
  · simp only [Knows, scolding, Step.references, ConfigSource.references, namedReferences]
    decide +kernel
  · have texts := congrArg (List.map fun a => a.2.map View.sql) same
    revert texts
    decide +kernel

end Session

end SelectBuilder
