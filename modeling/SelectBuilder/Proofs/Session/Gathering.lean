import SelectBuilder.Proofs.Builder.Gathering
import SelectBuilder.Proofs.Session.Loosening

/-!
# Operators gathered over runs

What a fresh builder accepts under relaxed settings, another one accepts under strict settings once
every operator is moved to its condition.
-/
namespace SelectBuilder

namespace Request

def call (q : Request) : Outcome Call := Call.ofMethod q.method q.args q.named

/-- The request opens a condition. -/
def opens (q : Request) : Bool := q.call.toOption.any Call.opens

/-- The request is for an operator on a condition. -/
def operates (q : Request) : Bool := q.call.toOption.any Call.operates

theorem Plain.call {q : Request} {c : Call} (plain : q.Plain) (made : q.call = .ok c) (k : Nat) :
    Reference.builder k ∉ c.references := fun inside =>
  plain.free k (Call.references_ofMethod made inside)

end Request

namespace Session

/-- A named builder that refers to no builders, and what its calls look at besides it. -/
structure Hosts (s : Session) (on : String) (id : Nat) (b : Builder) (ctx : Context)
    (strict : Bool) : Prop where
  named : s.names.lookup on = some (.builder id)
  found : s.store.builders[id]? = some b
  free : ∀ k, Reference.builder k ∉ b.references
  quoted : s.store.quoted = ctx.resolver.quoted
  checks : (s.store.contextOf b).checksPagination = ctx.checksPagination
  strict : (s.store.configOf b).strict.isTrue = strict

variable {s : Session} {on on' : String} {id id' : Nat} {b b' d : Builder} {ctx : Context}
  {strict : Bool} {q : Request} {c : Call} {change : Change} {requests : List Request}
  {calls : List Call}

theorem Hosts.agree (h : s.Hosts on id b ctx strict) {refs : List Reference}
    (free : ∀ k, Reference.builder k ∉ refs) : s.store.resolver.Agree ctx.resolver refs :=
  ⟨fun k inside => absurd inside (free k), fun x _ => congrFun h.quoted x⟩

theorem Hosts.plan_eq (h : s.Hosts on id b ctx strict)
    (free : ∀ k, Reference.builder k ∉ c.references) :
    b.plan (s.store.contextOf b) c = b.plan ctx c := by
  refine Builder.plan_congr (h.agree free) (fun condition current => h.agree fun k inside => ?_)
    h.checks.symm
  obtain ⟨place, -, found⟩ := Option.bind_eq_some_iff.mp current
  exact h.free k (List.mem_flatMap.mpr ⟨condition, List.mem_of_getElem? found, inside⟩)

/-- A builder that refers to no builders has a text whatever the other builders are. -/
theorem Hosts.render_eq (h : s.Hosts on id b ctx strict) :
    s.store.render id = b.render ctx.resolver := by
  rw [Store.render_eq h.found]
  refine Builder.render_congr fun c hc => ⟨fun k inside => ?_, fun x _ => congrFun h.quoted x⟩
  exact absurd (List.mem_flatMap.mpr ⟨c, hc, inside⟩) (h.free k)

/-- A request for a call that the builder accepts succeeds. -/
theorem Hosts.answer (h : s.Hosts on id b ctx strict) (plain : q.Plain) (made : q.call = .ok c)
    (planned : b.plan ctx c = .ok change) :
    (s.step (q.on on)).2.outcome.isOk ∧
      (s.step (q.on on)).1.Hosts on id (b.apply strict change) ctx strict := by
  have asked : s.request? (q.on on) = some (id, c) :=
    request?_call_eq_some.mpr ⟨h.named, made⟩
  have planned' := (h.plan_eq (plain.call made)).trans planned
  obtain ⟨store, names, answered⟩ :=
    step_called asked (Store.call_eq_ok.mpr ⟨b, change, h.found, planned', rfl, rfl⟩)
  rw [h.strict] at store
  refine ⟨by rw [answered]; rfl, ?_⟩
  constructor
  case named => rw [names, h.named]
  case found =>
    rw [store]
    exact List.getElem?_set_self (List.getElem?_eq_some_iff.mp h.found).1
  case free =>
    intro k inside
    rcases List.mem_append.mp (Builder.references_apply planned _ inside) with old | new
    · exact h.free k old
    · exact plain.call made k new
  case quoted => rw [store, Store.quoted_setBuilder h.found (Builder.config_apply ..), h.quoted]
  case checks =>
    rw [store, ← h.checks]
    simp [Store.contextOf, Store.configOf]
  case strict =>
    rw [store, ← h.strict]
    simp [Store.configOf]

/-- A request that succeeds is for a call that the builder accepts. -/
theorem Hosts.accepted (h : s.Hosts on id b ctx strict) (plain : q.Plain)
    (ok : (s.step (q.on on)).2.outcome.isOk) :
    ∃ c change, q.call = .ok c ∧ b.plan ctx c = .ok change := by
  obtain ⟨c, made, asked⟩ := request?_of_isOk h.named plain.method ok
  cases called : s.store.call id c with
  | error e =>
    rw [(step_refused asked called).2] at ok
    cases ok
  | ok p =>
    obtain ⟨b₀, change, found, planned, -⟩ := Store.call_eq_ok.mp called
    obtain rfl : b = b₀ := Option.some.inj (h.found.symm.trans found)
    exact ⟨c, change, made, (h.plan_eq (plain.call made)).symm.trans planned⟩

/-- The calls of requests that succeed are accepted one after the other. -/
theorem Hosts.accepts (h : s.Hosts on id b ctx strict) (plain : ∀ q ∈ requests, q.Plain)
    (succeeds : s.Succeeds (requests.map (·.on on))) :
    ∃ calls d, List.Forall₂ (fun q c => q.call = .ok c) requests calls ∧
      b.Accepts ctx strict calls d ∧
      (s.run (requests.map (·.on on))).Hosts on id d ctx strict := by
  induction requests generalizing s b with
  | nil => exact ⟨[], b, .nil, .nil b, h⟩
  | cons q rest ih =>
    obtain ⟨first, others⟩ := List.forall_mem_cons.mp plain
    obtain ⟨ok, later⟩ := succeeds
    obtain ⟨c, change, made, planned⟩ := h.accepted first ok
    obtain ⟨calls, d, each, accepts, hosts⟩ := ih (h.answer first made planned).2 others later
    exact ⟨c :: calls, d, .cons made each, .cons planned accepts, hosts⟩

/-- Requests for calls that are accepted one after the other succeed. -/
theorem Hosts.succeeds (h : s.Hosts on id b ctx strict) (plain : ∀ q ∈ requests, q.Plain)
    (each : List.Forall₂ (fun q c => q.call = .ok c) requests calls)
    (accepts : b.Accepts ctx strict calls d) :
    s.Succeeds (requests.map (·.on on)) ∧
      (s.run (requests.map (·.on on))).Hosts on id d ctx strict := by
  induction each generalizing s b with
  | nil =>
    cases accepts
    exact ⟨trivial, h⟩
  | cons made _ ih =>
    obtain ⟨first, others⟩ := List.forall_mem_cons.mp plain
    cases accepts with
    | cons planned rest =>
      obtain ⟨ok, hosts⟩ := h.answer first made planned
      obtain ⟨later, end'⟩ := ih hosts others rest
      exact ⟨⟨ok, later⟩, end'⟩

/-- Of two fresh builders let the first one have relaxed and the second one strict settings, alike
otherwise. If the first one accepts calls one after the other, the second one accepts the same calls
with every operator moved to the last condition before it. In the end both have the same clauses and
the same text. -/
theorem run_gathered {config config' : Nat}
    (named : s.names.lookup on = some (.builder id))
    (named' : s.names.lookup on' = some (.builder id'))
    (fresh : s.store.builders[id]? = some { config := config })
    (fresh' : s.store.builders[id']? = some { config := config' })
    (relaxed : (s.store.configs.getD config {}).strict.isTrue = false)
    (strict : (s.store.configs.getD config' {}).strict.isTrue = true)
    (pagination : (s.store.configs.getD config' {}).checkPagination.isTrue =
      (s.store.configs.getD config {}).checkPagination.isTrue)
    (plain : ∀ q ∈ requests, q.Plain) (succeeds : s.Succeeds (requests.map (·.on on))) :
    (gathered Request.opens Request.operates requests).Perm requests ∧
      s.Succeeds ((gathered Request.opens Request.operates requests).map (·.on on')) ∧
      ∃ b b', (s.run (requests.map (·.on on))).store.builders[id]? = some b ∧
        (s.run ((gathered Request.opens Request.operates requests).map
          (·.on on'))).store.builders[id']? = some b' ∧
        b'.clauses = b.clauses ∧
        (s.run ((gathered Request.opens Request.operates requests).map
          (·.on on'))).store.render id' = (s.run (requests.map (·.on on))).store.render id := by
  have perm : (gathered Request.opens Request.operates requests).Perm requests :=
    gathered_perm requests
  have loose : s.Hosts on id { config := config }
      (s.store.contextOf { config := config }) false :=
    ⟨named, fresh, nofun, rfl, rfl, relaxed⟩
  have tight : s.Hosts on' id' { config := config' }
      (s.store.contextOf { config := config }) true :=
    ⟨named', fresh', nofun, rfl, pagination, strict⟩
  obtain ⟨calls, b, each, accepts, hosts⟩ := loose.accepts plain succeeds
  obtain ⟨d, accepts', clauses⟩ := Builder.accepts_gathered config' accepts
  have each' : List.Forall₂ (fun q c => q.call = .ok c)
      (gathered Request.opens Request.operates requests)
      (gathered Call.opens Call.operates calls) :=
    forall₂_gathered (fun made => by simp [Request.opens, made, Except.toOption])
      (fun made => by simp [Request.operates, made, Except.toOption]) each
  obtain ⟨succeeds', hosts'⟩ :=
    tight.succeeds (fun q hq => plain q (perm.subset hq)) each' accepts'
  refine ⟨perm, succeeds', b, d, hosts.found, hosts'.found, clauses, ?_⟩
  rw [hosts.render_eq, hosts'.render_eq, Builder.render, clauses, Builder.render]

/-- Two fresh builders, the first one under relaxed settings. -/
def paired : Session :=
  initial.run [.new "relaxed" (.fields [("strict_fragments", .bool false)]),
    .new "strict" (.fields [])]

/-- The operators come after a clause that follows their condition. -/
def scattered : List Request :=
  [⟨"select", [.text "id"], []⟩, ⟨"where", [.text "a"], []⟩, ⟨"limit", [.int 5], []⟩,
    ⟨"equals_to", [.int 1], []⟩, ⟨"and_", [.text "b"], []⟩, ⟨"group_by", [.text "id"], []⟩,
    ⟨"is_null", [], []⟩]

theorem run_gathered_scattered :
    gathered Request.opens Request.operates scattered =
        [⟨"select", [.text "id"], []⟩, ⟨"where", [.text "a"], []⟩, ⟨"equals_to", [.int 1], []⟩,
          ⟨"and_", [.text "b"], []⟩, ⟨"is_null", [], []⟩, ⟨"limit", [.int 5], []⟩,
          ⟨"group_by", [.text "id"], []⟩] ∧
      paired.Succeeds ((gathered Request.opens Request.operates scattered).map (·.on "strict")) ∧
      (paired.run ((gathered Request.opens Request.operates scattered).map
        (·.on "strict"))).store.render 1 =
          (paired.run (scattered.map (·.on "relaxed"))).store.render 0 := by
  have plain : ∀ q ∈ scattered, q.Plain := by
    simp only [scattered, List.forall_mem_cons]
    refine ⟨⟨by decide, ?_⟩, ⟨by decide, ?_⟩, ⟨by decide, ?_⟩, ⟨by decide, ?_⟩, ⟨by decide, ?_⟩,
      ⟨by decide, ?_⟩, ⟨by decide, ?_⟩, nofun⟩ <;>
      simp [Request.references, Value.references]
  obtain ⟨-, succeeds, b, b', -, -, -, same⟩ :=
    @run_gathered paired "relaxed" "strict" 0 1 scattered 1 2 rfl rfl rfl rfl (by decide)
      (by decide) (by decide) plain ⟨rfl, rfl, rfl, rfl, rfl, rfl, rfl, trivial⟩
  exact ⟨rfl, succeeds, same⟩

end Session

end SelectBuilder
