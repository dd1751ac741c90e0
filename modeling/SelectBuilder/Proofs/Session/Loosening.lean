import SelectBuilder.Proofs.Builder.Loosening
import SelectBuilder.Proofs.Builder.Operands
import SelectBuilder.Proofs.Session.Run
import SelectBuilder.Proofs.Store.Rendering

/-!
# Looser settings over runs

The same calls are made on two builders, of which one has the looser settings.
-/
namespace SelectBuilder

/-- A configuration that is checked no less than another one. -/
structure Config.Loosened (c c' : Config) : Prop where
  strict : c'.strict.isTrue → c.strict.isTrue
  pagination : c'.checkPagination.isTrue → c.checkPagination.isTrue

/-- A call of a method on a builder still to be named. -/
structure Request where
  method : String
  args : List Value
  named : List (String × Value) := []

namespace Request

def on (q : Request) (name : String) : Step := .call name q.method q.args q.named

def references (q : Request) : List Reference :=
  q.args.flatMap Value.references ++ q.named.flatMap fun n => n.2.references

/-- The method is one of those that change a statement, and no builder is among its operands. -/
structure Plain (q : Request) : Prop where
  method : q.method ∈ methods.map Prod.fst
  free : ∀ id, Reference.builder id ∉ q.references

end Request

namespace Session

/-- A builder of one session is matched by a builder of another one that has looser settings. -/
structure Matches (s s' : Session) (on on' : String) (b b' : Builder) (id id' : Nat) : Prop where
  named : s.names.lookup on = some (.builder id)
  named' : s'.names.lookup on' = some (.builder id')
  found : s.store.builders[id]? = some b
  found' : s'.store.builders[id']? = some b'
  loosens : b'.Loosens b
  settings : (s.store.configOf b).Loosened (s'.store.configOf b')
  free : ∀ k, Reference.builder k ∉ b.references
  quoted : s'.store.quoted = s.store.quoted

/-- A method that is answered made a call of its operands. -/
theorem request?_of_isOk {s : Session} {on : String} {id : Nat} {q : Request}
    (named : s.names.lookup on = some (.builder id)) (method : q.method ∈ methods.map Prod.fst)
    (ok : (s.step (q.on on)).2.outcome.isOk) :
    ∃ c, Call.ofMethod q.method q.args q.named = .ok c ∧ s.request? (q.on on) = some (id, c) := by
  cases made : Call.ofMethod q.method q.args q.named with
  | ok c => exact ⟨c, rfl, request?_call_eq_some.mpr ⟨named, made⟩⟩
  | error e =>
    have failed : s.effect (q.on on) = .error e :=
      (runCall_method named method).trans (by rw [made, Outcome.error_bind])
    simp [step, stepWith, failed, refuse, Except.isOk, Except.toBool] at ok

/-- A call that succeeds on the one builder succeeds on the other one, and they still match. -/
theorem Matches.step {s s' : Session} {on on' : String} {b b' : Builder} {id id' : Nat}
    (h : s.Matches s' on on' b b' id id') {q : Request} (plain : q.Plain)
    (ok : (s.step (q.on on)).2.outcome.isOk) :
    (s'.step (q.on on')).2.outcome.isOk ∧
      ∃ d d', (s.step (q.on on)).1.Matches (s'.step (q.on on')).1 on on' d d' id id' := by
  obtain ⟨c, made, asked⟩ := request?_of_isOk h.named plain.method ok
  have asked' : s'.request? (q.on on') = some (id', c) :=
    request?_call_eq_some.mpr ⟨h.named', made⟩
  have free (k : Nat) : Reference.builder k ∉ c.references := fun inside =>
    plain.free k (Call.references_ofMethod made inside)
  cases called : s.store.call id c with
  | error e =>
    rw [(step_refused asked called).2] at ok
    cases ok
  | ok p =>
    obtain ⟨t, report⟩ := p
    obtain ⟨b₀, change, found, planned, rfl, -⟩ := Store.call_eq_ok.mp called
    obtain rfl : b = b₀ := Option.some.inj (h.found.symm.trans found)
    have agree : s.store.resolver.Agree s'.store.resolver c.references :=
      ⟨fun k inside => absurd inside (free k), fun x _ => congrFun h.quoted.symm x⟩
    have lax : (s'.store.contextOf b').checksPagination →
        (s.store.contextOf b).checksPagination := h.settings.pagination
    have planned' := Builder.plan_loosens h.loosens agree lax planned
    have called' := Store.call_eq_ok.mpr ⟨b', change, h.found', planned', rfl, rfl⟩
    obtain ⟨store, names, -⟩ := step_called asked called
    obtain ⟨store', names', done'⟩ := step_called asked' called'
    refine ⟨by rw [done']; rfl, b.apply (s.store.configOf b).strict.isTrue change,
      b'.apply (s'.store.configOf b').strict.isTrue change, ?_⟩
    constructor
    case named => rw [names, h.named]
    case named' => rw [names', h.named']
    case found =>
      rw [store]
      exact List.getElem?_set_self (List.getElem?_eq_some_iff.mp found).1
    case found' =>
      rw [store']
      exact List.getElem?_set_self (List.getElem?_eq_some_iff.mp h.found').1
    case loosens =>
      exact Builder.apply_loosens h.loosens h.settings.strict (Builder.plan_admits planned)
    case settings =>
      rw [store, store']
      simpa [Store.configOf] using h.settings
    case free =>
      intro k inside
      rcases List.mem_append.mp (Builder.references_apply planned _ inside) with old | new
      · exact h.free k old
      · exact free k new
    case quoted =>
      rw [store, store', Store.quoted_setBuilder found (Builder.config_apply ..),
        Store.quoted_setBuilder h.found' (Builder.config_apply ..), h.quoted]

/-- What the text of the one builder is, that of the other one is. -/
theorem Matches.render {s s' : Session} {on on' : String} {b b' : Builder} {id id' : Nat}
    (h : s.Matches s' on on' b b' id id') : s'.store.render id' = s.store.render id := by
  rw [Store.render_eq h.found, Store.render_eq h.found', h.quoted]
  have clauses : ∀ r, b'.render r = b.render r := fun r => by
    rw [Builder.render, h.loosens.clauses, Builder.render]
  rw [clauses]
  refine Builder.render_congr fun c hc => ⟨fun k inside => ?_, fun _ _ => rfl⟩
  exact absurd (List.mem_flatMap.mpr ⟨c, hc, inside⟩) (h.free k)

theorem Matches.run {s s' : Session} {on on' : String} {b b' : Builder} {id id' : Nat}
    (h : s.Matches s' on on' b b' id id') {requests : List Request}
    (plain : ∀ q ∈ requests, q.Plain) (accepted : s.Succeeds (requests.map (·.on on))) :
    s'.Succeeds (requests.map (·.on on')) ∧
      ∀ n, ∃ d d', (s.run ((requests.take n).map (·.on on))).Matches
        (s'.run ((requests.take n).map (·.on on'))) on on' d d' id id' := by
  induction requests generalizing s s' b b' with
  | nil => exact ⟨trivial, fun n => ⟨b, b', by simpa using h⟩⟩
  | cons q rest ih =>
    obtain ⟨ok, later⟩ := accepted
    obtain ⟨ok', d, d', matched⟩ := h.step (plain q List.mem_cons_self) ok
    obtain ⟨all, each⟩ := ih matched (fun p hp => plain p (List.mem_cons_of_mem q hp)) later
    refine ⟨⟨ok', all⟩, fun n => ?_⟩
    cases n with
    | zero => exact ⟨b, b', h⟩
    | succ n => exact each n

/-- Of two fresh builders let the second one have the looser settings. If the first one accepts
calls one after the other, so does the second one; after each of them both have the same clauses and
the same text, and where a condition of the first one stands, one of the second one does. -/
theorem run_loosened {s : Session} {on on' : String} {id id' config config' : Nat}
    (named : s.names.lookup on = some (.builder id))
    (named' : s.names.lookup on' = some (.builder id'))
    (fresh : s.store.builders[id]? = some { config := config })
    (fresh' : s.store.builders[id']? = some { config := config' })
    (loosened : (s.store.configs.getD config {}).Loosened (s.store.configs.getD config' {}))
    {requests : List Request} (plain : ∀ q ∈ requests, q.Plain)
    (accepted : s.Succeeds (requests.map (·.on on))) :
    s.Succeeds (requests.map (·.on on')) ∧
      ∀ n, ∃ b b', (s.run ((requests.take n).map (·.on on))).store.builders[id]? = some b ∧
        (s.run ((requests.take n).map (·.on on'))).store.builders[id']? = some b' ∧
        b'.clauses = b.clauses ∧
        (s.run ((requests.take n).map (·.on on'))).store.render id' =
          (s.run ((requests.take n).map (·.on on))).store.render id ∧
        (b.stage ≠ .absent → b'.stage = b.stage) := by
  have start : s.Matches s on on' { config := config } { config := config' } id id' :=
    ⟨named, named', fresh, fresh', .fresh config config', loosened, nofun, rfl⟩
  obtain ⟨all, each⟩ := start.run plain accepted
  refine ⟨all, fun n => ?_⟩
  obtain ⟨b, b', matched⟩ := each n
  exact ⟨b, b', matched.found, matched.found', matched.loosens.clauses, matched.render,
    matched.loosens.stage⟩

/-- Two fresh builders, of which the second one has looser settings. -/
def compared : Session :=
  initial.run [.new "strict" (.fields []),
    .new "loose" (.fields
      [("strict_fragments", .bool false), ("validate_pagination", .bool false)])]

/-- The condition is closed by the last call under strict settings alone. -/
def paged : List Request :=
  [⟨"select", [.text "id"], []⟩, ⟨"where", [.text "a"], []⟩, ⟨"equals_to", [.int 1], []⟩,
    ⟨"limit", [.int 5], []⟩]

theorem run_loosened_paged :
    compared.Succeeds (paged.map (·.on "loose")) ∧
      (compared.run (paged.map (·.on "loose"))).store.render 1 =
        (compared.run (paged.map (·.on "strict"))).store.render 0 := by
  have plain : ∀ q ∈ paged, q.Plain := by
    simp only [paged, List.forall_mem_cons]
    refine ⟨⟨by decide, ?_⟩, ⟨by decide, ?_⟩, ⟨by decide, ?_⟩, ⟨by decide, ?_⟩, nofun⟩ <;>
      simp [Request.references, Value.references]
  obtain ⟨all, each⟩ := @run_loosened compared "strict" "loose" 0 1 1 2 rfl rfl rfl rfl
    ⟨by decide, by decide⟩ paged plain ⟨rfl, rfl, rfl, rfl, trivial⟩
  obtain ⟨b, b', -, -, -, same, -⟩ := each 4
  exact ⟨all, same⟩

end Session

end SelectBuilder
