import SelectBuilder.Proofs.Session.Alteration
import SelectBuilder.Proofs.Session.Copying

/-!
# Steps in another order

Two steps on builders that have nothing to do with each other may be made in either order. Each of
them is answered as if the other one had not been made, and in the end there are the same objects,
but for the numbers of new ones.
-/
namespace SelectBuilder

def Handle.rename (f g : Nat → Nat) : Handle → Handle
  | builder id => builder (f id)
  | config id => config (g id)
  | factory id => factory (g id)

theorem Handle.rename_eq_self {f g : Nat → Nat} {h : Handle} (fixed : h.object.map f g = h.object) :
    h.rename f g = h := by
  cases h <;> simpa [object, Reference.map, rename] using fixed

@[simp] theorem Handle.rename_id (h : Handle) : h.rename id id = h :=
  rename_eq_self (Reference.map_id _)

namespace Alteration

variable {s : Store} {x y : Step} {a b : Nat} {starts refs : List Reference} {p q : Alteration}

/-- Nothing leads from some objects to what is altered. -/
def Hidden (s : Store) (starts : List Reference) : Alteration → Prop
  | keep => True
  | builder j d => (∃ b, s.builders[j]? = some b ∧ d.config = b.config) ∧
      ∀ i, .builder i ∈ starts → ¬s.Reaches i j
  | config k _ => .config k ∈ s.references ∧ ∀ z ∈ starts, ¬s.Leads z (.config k)
  | copy _ _ => True

theorem Hidden.mono {more : List Reference} (h : q.Hidden s more) (sub : starts ⊆ more) :
    q.Hidden s starts := by
  cases q with
  | builder j d => exact ⟨h.1, fun i hi => h.2 i (sub hi)⟩
  | config k c => exact ⟨h.1, fun z hz => h.2 z (sub hz)⟩
  | _ => trivial

/-- An alteration is not seen from where nothing leads to it. -/
theorem Hidden.sees (h : q.Hidden s (.builder a :: refs)) (scope : s.Scoped)
    (inside : Reference.builder a :: refs ⊆ s.references) : s.Sees a refs (q.store s) := by
  cases q with
  | keep => exact .refl s a refs
  | builder j d =>
    obtain ⟨⟨b, found, config⟩, apart⟩ := h
    exact Store.sees_setBuilder found config apart
  | config k c => exact Store.sees_setConfig c h.2
  | copy j name => exact scope.sees_copy j inside

/-- The builder that a step shows afterwards. -/
def shown (a : Nat) (s : Store) : Alteration → Nat
  | copy id _ => (s.copy id).2
  | _ => a

/-- What is hidden from a step stays hidden from what the step shows. -/
theorem Hidden.after (h : q.Hidden s (.builder a :: x.references)) (by' : By s x a p)
    (scope : s.Scoped) (inside : .builder a ∈ s.references) :
    q.Hidden (p.store s) [.builder (p.shown a s)] := by
  cases by' with
  | keep => exact h.mono (List.cons_subset_cons _ (List.nil_subset _))
  | @builder b d other found config brought =>
    cases q with
    | builder j e =>
      obtain ⟨⟨e', found', config'⟩, apart⟩ := h
      have self := apart a List.mem_cons_self
      have distinct : a ≠ j := by
        rintro rfl
        exact self .refl
      refine ⟨⟨e', by simpa [store, distinct] using found', config'⟩, fun i hi => ?_⟩
      obtain rfl : i = a := by simpa [shown] using hi
      refine not_reflTransGen_of_new (fun _ _ => Store.refers_of_setBuilder found brought) self ?_
      exact fun i' new => apart i' (List.mem_cons_of_mem _ new)
    | config k c =>
      refine ⟨by simpa [store, Store.config_mem_references] using h.1, fun z hz => ?_⟩
      obtain rfl := List.mem_singleton.mp hz
      refine not_reflTransGen_of_new
        (fun _ _ => Store.links_of_setBuilder found brought config) (h.2 _ List.mem_cons_self) ?_
      exact fun z new => h.2 z (List.mem_cons_of_mem _ new)
    | _ => trivial
  | @config b c assigns found brought =>
    cases q with
    | builder j e =>
      refine ⟨h.1, fun i hi => ?_⟩
      obtain rfl : i = a := by simpa [shown] using hi
      exact h.2 i List.mem_cons_self
    | config k c' =>
      refine ⟨by simpa [store, Store.setConfig, Store.config_mem_references] using h.1,
        fun z hz => ?_⟩
      obtain rfl := List.mem_singleton.mp hz
      refine not_reflTransGen_of_new (fun _ _ => Store.links_of_setConfig brought)
        (h.2 _ List.mem_cons_self) ?_
      exact fun z new => h.2 z (List.mem_cons_of_mem _ new)
    | _ => trivial
  | @copy on name copies =>
    -- The copy leads to new objects alone, and what is altered is an old one.
    have new {z : Reference} (leads : (s.copy a).1.Leads (.builder (s.copy a).2) z) :
        z ∉ s.references := (scope.copy_apart inside).leads (s.copy_fresh a) leads
    cases q with
    | builder j d =>
      obtain ⟨⟨e, found, config⟩, -⟩ := h
      have known := Store.builder_mem_references.mpr (List.getElem?_eq_some_iff.mp found).1
      refine ⟨⟨e, ((s.keeps_copy a).builder j known).trans found, config⟩, fun i hi leads => ?_⟩
      obtain rfl : i = (s.copy a).2 := by simpa [shown] using hi
      exact new leads.leads known
    | config k c =>
      refine ⟨(s.keeps_copy a).inside h.1, fun z hz leads => ?_⟩
      obtain rfl := List.mem_singleton.mp hz
      exact new leads h.1
    | _ => trivial

/-! ## Two alterations -/

/-- Two alterations may be made in either order, but for the numbers of new objects. -/
structure Commute (s : Store) (p q : Alteration) (f g : Equiv.Perm Nat) : Prop where
  fixed : ∀ z ∈ s.references, z.map f g = z
  store : (q.store (p.store s)).Renamed f g (p.store (q.store s))
  first : p.bindings (q.store s) = (p.bindings s).map fun e => (e.1, e.2.rename f g)
  second : q.bindings s = (q.bindings (p.store s)).map fun e => (e.1, e.2.rename f g)

theorem commute_of_eq (store : q.store (p.store s) = p.store (q.store s))
    (first : p.bindings (q.store s) = p.bindings s)
    (second : q.bindings (p.store s) = q.bindings s) :
    ∃ f g, Commute s p q f g := by
  refine ⟨.refl Nat, .refl Nat, fun z _ => z.map_id, ?_, ?_, ?_⟩
  · rw [store]
    exact .refl _
  · simp [first]
  · simp [second]

theorem commute (scope : s.Scoped) (ha : .builder a ∈ s.references) (hb : .builder b ∈ s.references)
    (byP : By s x a p) (byQ : By s y b q) (hiddenP : p.Hidden s (.builder b :: y.references))
    (hiddenQ : q.Hidden s (.builder a :: x.references))
    (copiedP : x.isCopy → ¬s.Leads (.builder a) (.builder b))
    (copiedQ : y.isCopy → ¬s.Leads (.builder b) (.builder a)) : ∃ f g, Commute s p q f g := by
  cases byP with
  | keep => exact commute_of_eq rfl rfl rfl
  | @builder _ d other found config =>
    cases byQ with
    | keep | config => exact commute_of_eq rfl rfl rfl
    | @builder _ e =>
      have distinct : a ≠ b := by
        rintro rfl
        exact hiddenP.2 a List.mem_cons_self .refl
      refine commute_of_eq ?_ rfl rfl
      simp only [store, Store.setBuilder]
      rw [List.set_comm _ _ distinct]
    | @copy on name copies =>
      subst copies
      have made := scope.copy_setBuilder hb d ha (copiedQ rfl)
      exact commute_of_eq (congrArg Prod.fst made) rfl (by simp only [store, bindings, made])
  | @config b' c assigns found brought =>
    cases byQ with
    | keep | builder => exact commute_of_eq rfl rfl rfl
    | @config b'' c' assigns' found' =>
      have distinct : b'.config ≠ b''.config := by
        intro same
        refine hiddenP.2 _ List.mem_cons_self (.single ?_)
        rw [same, Store.Links, Store.links_builder found']
        exact List.mem_cons_self
      refine commute_of_eq ?_ rfl rfl
      simp only [store, Store.setConfig]
      rw [List.set_comm _ _ distinct]
    | copy copies =>
      have made := scope.copy_setConfig hb c hiddenP.1 (hiddenP.2 _ List.mem_cons_self)
      exact commute_of_eq (congrArg Prod.fst made) rfl (by simp only [store, bindings, made])
  | @copy on name copies =>
    subst copies
    cases byQ with
    | keep => exact commute_of_eq rfl rfl rfl
    | @builder _ d other found config =>
      have made := scope.copy_setBuilder ha d hb (copiedP rfl)
      exact commute_of_eq (congrArg Prod.fst made).symm (by simp only [store, bindings, made]) rfl
    | @config b' c assigns found brought =>
      have made := scope.copy_setConfig ha c hiddenQ.1 (hiddenQ.2 _ List.mem_cons_self)
      exact commute_of_eq (congrArg Prod.fst made).symm (by simp only [store, bindings, made]) rfl
    | copy =>
      obtain ⟨f, g, fixed, renamed, first, second⟩ := scope.copy_copy ha hb
      refine ⟨f, g, fixed, renamed, ?_, ?_⟩
      · simp [bindings, store, Handle.rename, first]
      · simp [bindings, store, Handle.rename, second]

end Alteration

theorem lookup_map_snd {α β : Type} (h : α → β) (l : List (String × α)) (name : String) :
    (l.map fun e => (e.1, h e.2)).lookup name = (l.lookup name).map h := by
  induction l with
  | nil => rfl
  | cons e rest ih =>
    rw [List.map_cons, List.lookup_cons, List.lookup_cons, ih]
    cases name == e.1 <;> rfl

namespace Session

variable {s t : Session} {x y : Step} {a b : Nat} {on on' : String} {p q : Alteration}

/-- The objects and names of one session are those of the other one, but for the numbers. -/
structure Renamed (f g : Nat → Nat) (s t : Session) : Prop where
  store : s.store.Renamed f g t.store
  names : ∀ name, t.names.lookup name = (s.names.lookup name).map (Handle.rename f g)

/-- A view does not show the number of what is viewed. -/
theorem Renamed.view {f g : Equiv.Perm Nat} (h : s.Renamed f g t) (subject : Option String) :
    t.view subject = s.view subject := by
  cases subject with
  | none => rfl
  | some name =>
    simp only [Session.view, Option.bind_some, h.names]
    cases s.names.lookup name with
    | none => rfl
    | some handle =>
      cases handle with
      | builder i =>
        simp only [Option.map_some, Handle.rename, h.store.builders,
          ← h.store.render f.injective g.injective]
        cases s.store.builders[i]? with
        | none => rfl
        | some b => simp [Builder.rename]
      | _ => rfl

/-- A builder has one view in stores that look the same from it. -/
theorem view_seen {i : Nat} {refs : List Reference} (sees : s.store.Sees i refs t.store)
    (bound : s.names.lookup on = some (.builder i))
    (bound' : t.names.lookup on = some (.builder i)) :
    t.view (some on) = s.view (some on) := by
  simp only [Session.view, Option.bind_some, bound, bound', sees.builder, sees.render]

/-- Of two steps, each on a builder, the first one has nothing to do with what the second one may
alter: neither its builder nor its operands lead to the other builder through clauses, nor in any
way to a configuration that is assigned to, nor does what it copies contain the other builder. A
copy gets a new name. -/
structure Apart (s : Session) (x : Step) (a : Nat) (y : Step) (b : Nat) : Prop where
  text : ∀ i, .builder i ∈ Reference.builder a :: x.references → ¬s.store.Reaches i b
  settings : y.isAssignment → ∀ d, s.store.builders[b]? = some d →
    ∀ z ∈ Reference.builder a :: x.references, ¬s.store.Leads z (.config d.config)
  copied : x.isCopy → ¬s.store.Leads (.builder a) (.builder b)
  named : ∀ from' name, x = .copy from' name →
    s.names.lookup name = none ∧ ∀ from'', y ≠ .copy from'' name

/-- What the second step alters is hidden from the first one. -/
theorem Apart.hidden (h : s.Apart x a y b) (scope : s.store.Scoped)
    (by' : Alteration.By s.store y b q) : q.Hidden s.store (.builder a :: x.references) := by
  cases by' with
  | keep | copy => trivial
  | builder other found config => exact ⟨⟨_, found, config⟩, h.text⟩
  | config assigns found =>
    refine ⟨Store.config_mem_references.mpr ?_, h.settings assigns _ found⟩
    exact scope.settings _ (List.mem_of_getElem? found)

/-- A copy gets none of the names that are there, nor that of another copy. -/
theorem Apart.fresh (h : s.Apart y b x a) (by' : Alteration.By s.store y b q) {name : String}
    (known : s.names.lookup name ≠ none ∨ ∃ from', x = .copy from' name) (u : Store) :
    (q.bindings u).lookup name = none := by
  cases by' with
  | @copy from'' name' copies =>
    obtain ⟨unbound, others⟩ := h.named from'' name' copies
    have other : name ≠ name' := by
      rintro rfl
      rcases known with old | ⟨from', also⟩
      · exact old unbound
      · exact others from' also
    rw [Alteration.bindings, List.lookup_cons, beq_false_of_ne other]
    rfl
  | _ => rfl

/-- The name of what a step shows. -/
theorem subject_step (target : x.target? = some on) (bound : s.names.lookup on = some (.builder a))
    (by' : Alteration.By s.store x a p) :
    ∃ name, Step.subject? x = some name ∧
      (p.make s).names.lookup name = some (.builder (p.shown a s.store)) ∧
      (s.names.lookup name ≠ none ∨ ∃ from', x = .copy from' name) := by
  have plain (other : x.isCopy = false) : Step.subject? x = some on := by
    cases x with
    | copy => cases other
    | _ => first | exact target | cases target
  have known : s.names.lookup on ≠ none := by simp [bound]
  cases by' with
  | keep other => exact ⟨on, plain other, bound, .inl known⟩
  | builder other => exact ⟨on, plain other, bound, .inl known⟩
  | config assigns =>
    have other : x.isCopy = false := by
      cases x <;> first | rfl | cases assigns
    exact ⟨on, plain other, bound, .inl known⟩
  | @copy from' name copies =>
    subst copies
    refine ⟨name, rfl, ?_, .inr ⟨from', rfl⟩⟩
    simp [Alteration.make, Alteration.bindings, Alteration.shown]

/-- What two alterations lead to in either order. -/
theorem renamed_of_commute {f g : Equiv.Perm Nat} (scope : s.Scoped)
    (commute : Alteration.Commute s.store p q f g)
    (distinct : ∀ name, (p.bindings s.store).lookup name = none ∨
      (q.bindings (p.store s.store)).lookup name = none) :
    (q.make (p.make s)).Renamed f g (p.make (q.make s)) where
  store := commute.store
  names name := by
    have old : (s.names.lookup name).map (Handle.rename f g) = s.names.lookup name := by
      cases found : s.names.lookup name with
      | none => rfl
      | some handle =>
        exact congrArg some (Handle.rename_eq_self (commute.fixed _ (scope.lookup found)))
    simp only [Alteration.make, commute.first, commute.second, List.lookup_append, lookup_map_snd,
      Option.map_or, old]
    rcases distinct name with none | none <;> simp [none]

variable (scope : s.Scoped) (unset : s.logging.setup = none) (target : x.target? = some on)
  (target' : y.target? = some on') (bound : s.names.lookup on = some (.builder a))
  (bound' : s.names.lookup on' = some (.builder b)) (knows : x.references ⊆ s.store.references)
  (apart : s.Apart x a y b) (apart' : s.Apart y b x a)

include scope target bound knows apart apart'

include unset target' bound' in
/-- What a step alters, and what it answers, is the same after the other step. -/
theorem step_apart :
    ∃ p outcome, Alteration.By s.store x a p ∧ s.Leaves x outcome (p.make s) ∧
      (s.step y).1.Leaves x outcome (p.make (s.step y).1) := by
  obtain ⟨q, _, by', leaves, -⟩ := step_seen unset unset bound' bound' target' (.refl _ _ _)
  have inside : Reference.builder a :: x.references ⊆ s.store.references :=
    List.cons_subset.mpr ⟨scope.lookup bound, knows⟩
  refine step_seen unset leaves.unset bound ?_ target ?_
  · rw [leaves.names, Alteration.make, List.lookup_append,
      apart'.fresh by' (.inl (by simp [bound])), Option.none_or, bound]
  · rw [leaves.store]
    exact (apart.hidden scope.store by').sees scope.store inside

/-- What a step shows looks the same after the other step. -/
theorem view_apart {outcome : Outcome Result} {t : Session} (byP : Alteration.By s.store x a p)
    (byQ : Alteration.By s.store y b q) (leaves : s.Leaves x outcome (p.make s))
    (store : t.store = q.store (s.step x).1.store)
    (names : t.names = q.bindings (s.step x).1.store ++ (s.step x).1.names) :
    t.view (Step.subject? x) = (s.step x).1.view (Step.subject? x) := by
  obtain ⟨name, subject, named, known⟩ := subject_step target bound byP
  rw [← leaves.names] at named
  have scope' : (s.step x).1.Scoped := scope.step knows
  have hidden := (apart.hidden scope.store byQ).after byP scope.store (scope.lookup bound)
  have sees : (s.step x).1.store.Sees (p.shown a s.store) [] t.store := by
    rw [store]
    refine Alteration.Hidden.sees ?_ scope'.store ?_
    · rw [leaves.store]
      exact hidden
    · exact List.cons_subset.mpr ⟨scope'.lookup named, List.nil_subset _⟩
  rw [subject]
  refine view_seen sees named ?_
  rw [names, List.lookup_append, apart'.fresh byQ known, Option.none_or, named]

omit scope target bound knows apart apart'

/-- Let two steps be made on builders of a reachable session in which no loggers are set up, and let
neither have anything to do with what the other one may alter. Then in either order each of them is
answered in the same way, with the same view of its subject, and in the end there are the same
objects under the same names, but for the numbers of objects made on the way. -/
theorem step_comm (reachable : s.Reachable) (unset : s.logging.setup = none)
    (target : x.target? = some on) (target' : y.target? = some on')
    (bound : s.names.lookup on = some (.builder a))
    (bound' : s.names.lookup on' = some (.builder b)) (knows : x.references ⊆ s.store.references)
    (knows' : y.references ⊆ s.store.references) (apart : s.Apart x a y b)
    (apart' : s.Apart y b x a) :
    ((s.step y).1.step x).2 = (s.step x).2 ∧ ((s.step x).1.step y).2 = (s.step y).2 ∧
      ∃ f g : Equiv.Perm Nat, (∀ z ∈ s.store.references, z.map f g = z) ∧
        ((s.step x).1.step y).1.Renamed f g ((s.step y).1.step x).1 := by
  have scope := reachable.scoped
  have insideA : .builder a ∈ s.store.references := scope.lookup bound
  have insideB : .builder b ∈ s.store.references := scope.lookup bound'
  -- What each of the steps alters is the same after the other one.
  obtain ⟨p, outcome, byP, leavesP, leavesP'⟩ :=
    step_apart scope unset target target' bound bound' knows apart apart'
  obtain ⟨q, outcome', byQ, leavesQ, leavesQ'⟩ :=
    step_apart scope unset target' target bound' bound knows' apart' apart
  obtain ⟨f, g, commute⟩ := Alteration.commute scope.store insideA insideB byP byQ
    (apart'.hidden scope.store byP) (apart.hidden scope.store byQ) apart.copied apart'.copied
  have distinct (name : String) : (p.bindings s.store).lookup name = none ∨
      (q.bindings (p.store s.store)).lookup name = none := by
    cases byP with
    | @copy from' name' copies =>
      by_cases same : name = name'
      · exact .inr (apart'.fresh byQ (.inr ⟨from', same ▸ copies⟩) _)
      · left
        rw [Alteration.bindings, List.lookup_cons, beq_false_of_ne same]
        rfl
    | _ => exact .inl rfl
  have renamed : ((s.step x).1.step y).1.Renamed f g ((s.step y).1.step x).1 := by
    have made := renamed_of_commute scope commute distinct
    constructor
    · rw [leavesQ'.store, leavesP'.store, Alteration.make, Alteration.make, leavesP.store,
        leavesQ.store]
      exact made.store
    · rw [leavesQ'.names, leavesP'.names, Alteration.make, Alteration.make, leavesP.store,
        leavesQ.store, leavesP.names, leavesQ.names]
      exact made.names
  refine ⟨?_, ?_, f, g, commute.fixed, renamed⟩
  · rw [leavesP'.answer, leavesP.answer, renamed.view]
    rw [view_apart scope target bound knows apart apart' byP byQ leavesP leavesQ'.store
      leavesQ'.names]
  · rw [leavesQ'.answer, leavesQ.answer, ← renamed.view]
    rw [view_apart scope target' bound' knows' apart' apart byQ byP leavesQ leavesP'.store
      leavesP'.names]

/-- Two statements with one table, which is a statement. -/
def sharing : List Step :=
  [.new "c" (.fields []), .call "c" "select" [.text "id"] [], .new "a" (.fields []),
    .call "a" "select" [.text "id"] [], .call "a" "from_" [.reference (.builder 0)] [],
    .new "b" (.fields []), .call "b" "select" [.text "n"] [],
    .call "b" "from_" [.reference (.builder 0)] []]

def shared : Session := initial.run sharing

theorem step_comm_sharing :
    ((shared.step (.call "b" "limit" [.int 5] [])).1.step (.copy "a" "d")).2 =
        (shared.step (.copy "a" "d")).2 ∧
      ((shared.step (.copy "a" "d")).1.step (.call "b" "limit" [.int 5] [])).2 =
        (shared.step (.call "b" "limit" [.int 5] [])).2 ∧
      ∃ f g : Equiv.Perm Nat, (∀ z ∈ shared.store.references, z.map f g = z) ∧
        ((shared.step (.copy "a" "d")).1.step (.call "b" "limit" [.int 5] [])).1.Renamed f g
          ((shared.step (.call "b" "limit" [.int 5] [])).1.step (.copy "a" "d")).1 := by
  have reachable : shared.Reachable := by
    refine ⟨sharing, ?_, rfl⟩
    simp only [Knows, sharing, Step.references, ConfigSource.references, namedReferences]
    decide +kernel
  have one : ¬shared.store.Leads (.builder 1) (.builder 2) :=
    reachable.scoped.store.not_leads (by decide +kernel) (by decide +kernel)
  have two : ¬shared.store.Leads (.builder 2) (.builder 1) :=
    reachable.scoped.store.not_leads (by decide +kernel) (by decide +kernel)
  have copying : shared.Apart (.copy "a" "d") 1 (.call "b" "limit" [.int 5] []) 2 := by
    refine ⟨fun i hi leads => ?_, fun assigns => ?_, fun _ => one, fun from' name copies => ?_⟩
    · obtain rfl : i = 1 := by simpa [Step.references] using hi
      exact one leads.leads
    · cases assigns
    · cases copies
      exact ⟨by decide +kernel, by simp⟩
  have limiting : shared.Apart (.call "b" "limit" [.int 5] []) 2 (.copy "a" "d") 1 := by
    refine ⟨fun i hi leads => ?_, fun assigns => ?_, fun copies => ?_, by simp⟩
    · obtain rfl : i = 2 := by simpa [Step.references, namedReferences] using hi
      exact two leads.leads
    · cases assigns
    · cases copies
  exact step_comm reachable (by decide +kernel) rfl rfl (by decide +kernel) (by decide +kernel)
    (by simp [Step.references]) (by simp [Step.references, namedReferences]) copying limiting

/-- The first and the second statement share a configuration, and the third one keeps the second one
inside a list. -/
def lending : List Step :=
  [.config "k" [], .new "a" (.shared "k"), .new "c" (.shared "k"), .new "b" (.fields []),
    .call "b" "select" [.text "id"] [], .call "b" "from_" [.list [.reference (.builder 1)]] []]

/-- The second statement is kept in the configuration of the first one. -/
def pledging : List Step :=
  [.new "a" (.fields []), .new "b" (.fields []),
    .assign "a" "dialect" (.reference (.builder 1))]

/-- A list shows the configuration of what is in it, and a copy contains what is kept in a
configuration, although no clauses lead from one statement to the other, and they share no
configuration. -/
theorem step_comm_lending :
    ((initial.run lending).Reachable ∧
      ¬(initial.run lending).store.Reaches 0 2 ∧ ¬(initial.run lending).store.Reaches 2 0 ∧
      (initial.run lending).store.builders.map Builder.config = [1, 1, 2] ∧
      (((initial.run lending).step (.assign "a" "dialect" (.text "mysql"))).1.step (.text "b")).2 ≠
        ((initial.run lending).step (.text "b")).2) ∧
    (initial.run pledging).Reachable ∧
      ¬(initial.run pledging).store.Reaches 0 1 ∧ ¬(initial.run pledging).store.Reaches 1 0 ∧
      ¬∃ f g : Equiv.Perm Nat, (∀ z ∈ (initial.run pledging).store.references, z.map f g = z) ∧
        (((initial.run pledging).step (.copy "a" "d")).1.step
          (.call "b" "select" [.text "id"] [])).1.Renamed f g
          (((initial.run pledging).step (.call "b" "select" [.text "id"] [])).1.step
            (.copy "a" "d")).1 := by
  have lent : (initial.run lending).Reachable := by
    refine ⟨lending, ?_, rfl⟩
    simp only [Knows, lending, Step.references, ConfigSource.references, namedReferences]
    decide +kernel
  have pledged : (initial.run pledging).Reachable := by
    refine ⟨pledging, ?_, rfl⟩
    simp only [Knows, pledging, Step.references, ConfigSource.references, namedReferences]
    decide +kernel
  have bare : ∀ i j, ¬(initial.run pledging).store.Refers i j := by
    rintro i j ⟨b, found, inside⟩
    have none : ∀ b ∈ (initial.run pledging).store.builders, b.clauses.length = 0 := by
      decide +kernel
    have empty := List.eq_nil_of_length_eq_zero (none b (List.mem_of_getElem? found))
    simp [Builder.references, empty] at inside
  have idle {i j : Nat} (other : i ≠ j) : ¬(initial.run pledging).store.Reaches i j := by
    intro leads
    rcases leads.cases_head with same | ⟨k, first, -⟩
    · exact other same
    · exact bare i k first
  refine ⟨⟨lent, fun leads => ?_, fun leads => ?_, by decide +kernel, fun same => ?_⟩, pledged,
    idle (by decide), idle (by decide), ?_⟩
  · exact lent.scoped.store.not_leads (by decide +kernel) (by decide +kernel) leads.leads
  · exact lent.scoped.store.not_leads (by decide +kernel) (by decide +kernel) leads.leads
  · have texts := congrArg (fun a : Answer => a.view.map View.sql) same
    revert texts
    decide +kernel
  · rintro ⟨f, g, fixed, renamed⟩
    -- There are three statements without clauses in one order, and two of them in the other one.
    have lengths (i : Nat) : [0, 1, 0, 1][f i]? = [0, 1, 0, 0][i]? := by
      have counted := renamed.store.length_clauses i
      have sooner : (((initial.run pledging).step (.copy "a" "d")).1.step
          (.call "b" "select" [.text "id"] [])).1.store.builders.map
            (fun b => b.clauses.length) = [0, 1, 0, 0] := by decide +kernel
      have later : (((initial.run pledging).step (.call "b" "select" [.text "id"] [])).1.step
          (.copy "a" "d")).1.store.builders.map
            (fun b => b.clauses.length) = [0, 1, 0, 1] := by decide +kernel
      rwa [sooner, later] at counted
    have places : ∀ j, [0, 1, 0, 1][j]? = some 0 → j = 0 ∨ j = 2 := by
      rintro (_ | _ | _ | _ | j) at' <;> simp_all
    have first : f 0 = 0 := Reference.builder.inj (fixed (.builder 0) (by decide +kernel))
    have third : f 2 = 2 := (places _ (lengths 2)).resolve_left fun same => by
      have := f.injective (same.trans first.symm)
      omega
    have fourth : f 3 = 2 := (places _ (lengths 3)).resolve_left fun same => by
      have := f.injective (same.trans first.symm)
      omega
    have := f.injective (third.trans fourth.symm)
    omega

end Session

end SelectBuilder
