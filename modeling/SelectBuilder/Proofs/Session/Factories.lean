import SelectBuilder.Proofs.Session.Copying
import SelectBuilder.Proofs.Session.Ownership

/-!
# Factories over runs

A builder that a factory makes has a configuration of its own, which starts as that of the factory.
So has a factory that is given a dialect. A factory that is given a configuration without a dialect
keeps it, and goes on as others change it.
-/
namespace SelectBuilder

open Outcome

namespace Session

variable {s t : Session} {x : Step} {k n : Nat} {o : Handle} {name : String}

/-- Whatever is done later, an object has the configuration that it had, but for what is assigned to
the object itself. -/
def Isolated (s : Session) (o : Handle) : Prop :=
  ∀ xs, s.Knows xs →
    (s.run xs).configuration o = (s.configuration o).map (·.assignAll (along (assigned o) s xs))

theorem Owns.isolated (scope : s.Scoped) (h : s.Owns o k) : s.Isolated o :=
  fun _ knows => h.configuration_run scope knows

/-- The configuration that a factory is given, as it is at the time. -/
def given (s : Session) : Option ConfigSource → Option Config
  | none => some {}
  | some (.shared name) => (s.names.lookup name).bind s.configuration
  | some (.fields fields) => (Config.ofFields fields).toOption

/-- A step that succeeds has its effect. -/
theorem effect_of_isOk (ok : (s.step x).2.outcome.isOk) :
    ∃ done result report, s.effect x = .ok (done, result, report) ∧
      (s.step x).1.store = done.store ∧ (s.step x).1.names = done.names := by
  unfold step stepWith at ok ⊢
  cases made : s.effect x with
  | error e =>
    rw [made] at ok
    cases ok
  | ok p =>
    obtain ⟨done, result, report⟩ := p
    cases report with
    | none => exact ⟨done, result, none, rfl, rfl, rfl⟩
    | some report =>
      rw [made] at ok
      dsimp only at ok ⊢
      split at ok
      · cases ok
      · exact ⟨done, result, some report, rfl, rfl, rfl⟩

/-- A configuration that is new is owned by the only object that has come to hold it. -/
theorem Owns.of_new {ks : List Nat} {bound : List (String × Handle)} (scope : s.Scoped)
    (new : s.store.configs.length ≤ n)
    (builders : t.store.builders.map Builder.config = s.store.builders.map Builder.config ++ ks)
    (names : t.names = bound ++ s.names) (holds : t.Holds n o)
    (further : ∀ i, ks[i]? = some n → o = .builder (s.store.builders.length + i))
    (named : ∀ p ∈ bound, n ∈ p.2.config? → o = p.2) (unnamed : o ≠ .config n) : t.Owns o n where
  holds := holds
  alone h other := by
    rcases other.grown builders names with old | ⟨i, last, rfl⟩ | ⟨p, among, rfl, held⟩
    · have := old.inside scope
      omega
    · exact (further i last).symm
    · exact (named p among held).symm
  unnamed := unnamed

theorem factoryConfig_inside (scope : s.Scoped) {factory : Option String}
    (found : s.factoryConfig factory = .ok k) : ∃ c, s.store.configs[k]? = some c := by
  have inside : k < s.store.configs.length := by
    cases factory with
    | none =>
      cases found
      exact Store.config_mem_references.mp scope.main
    | some name =>
      obtain ⟨handle, named, found⟩ := bind_eq_ok.mp found
      cases handle <;> cases found
      exact Store.config_mem_references.mp (scope.lookup (mention_eq_ok.mp named))
  exact ⟨_, List.getElem?_eq_getElem inside⟩

variable {factory : Option String} {columns : List Value} {dialect : Value}

/-- What a factory makes. -/
theorem step_select_eq (scope : s.Scoped)
    (ok : (s.step (.select name factory columns dialect)).2.outcome.isOk) :
    ∃ k c, s.factoryConfig factory = .ok k ∧ s.store.configs[k]? = some c ∧
      (s.step (.select name factory columns dialect)).1.names =
        [(name, .builder s.store.builders.length)] ++ s.names ∧
      (s.step (.select name factory columns dialect)).1.store.configs =
        s.store.configs ++ [c.withDialect dialect] ∧
      (s.step (.select name factory columns dialect)).1.store.builders.map Builder.config =
        s.store.builders.map Builder.config ++ [s.store.configs.length] := by
  obtain ⟨done, result, report, made, store, names⟩ := effect_of_isOk ok
  obtain ⟨k, found, made⟩ := bind_eq_ok.mp made
  obtain ⟨⟨u, id, r⟩, selected, same⟩ := bind_eq_ok.mp made
  cases same
  obtain ⟨c, inside⟩ := factoryConfig_inside scope found
  obtain ⟨rfl, configs, builders⟩ := Store.selectFrom_settings selected
  refine ⟨k, c, found, inside, names, store ▸ ?_, store ▸ builders⟩
  rw [List.getD_eq_getElem?_getD, inside] at configs
  exact configs

theorem owns_select (scope : s.Scoped)
    (ok : (s.step (.select name factory columns dialect)).2.outcome.isOk) :
    (s.step (.select name factory columns dialect)).1.Owns (.builder s.store.builders.length)
      s.store.configs.length := by
  obtain ⟨k, c, -, -, names, -, builders⟩ := step_select_eq scope ok
  have last : (s.step (.select name factory columns dialect)).1.Holds s.store.configs.length
      (.builder s.store.builders.length) := .builder (by rw [← List.getElem?_map, builders]; simp)
  refine .of_new scope (Nat.le_refl _) builders names last (fun i new => ?_) (by simp) nofun
  cases i with
  | zero => rfl
  | succ i => cases new

/-- The configuration that a factory has. -/
def preset (s : Session) (factory : Option String) : Option Config :=
  (s.factoryConfig factory).toOption.bind fun k => s.store.configs[k]?

theorem preset_of_bound (bound : s.names.lookup name = some (.factory k)) :
    s.preset (some name) = s.store.configs[k]? := by
  have found : s.factoryConfig (some name) = .ok k := by
    simp only [factoryConfig, mention_eq_ok.mpr bound, ok_bind]
    rfl
  simp [preset, found, Except.toOption]

theorem step_factory_eq {config : Option ConfigSource}
    (ok : (s.step (.factory name config dialect)).2.outcome.isOk) :
    ∃ u given, s.resolveGiven config = .ok (u, given) ∧
      (s.step (.factory name config dialect)).1.names =
        [(name, .factory (u.makeFactory given dialect).2)] ++ s.names ∧
      (s.step (.factory name config dialect)).1.store = (u.makeFactory given dialect).1 := by
  obtain ⟨done, result, report, made, store, names⟩ := effect_of_isOk ok
  obtain ⟨⟨u, given⟩, resolved, same⟩ := bind_eq_ok.mp made
  have same : { s with store := (u.makeFactory given dialect).1 }.bind name
      (.factory (u.makeFactory given dialect).2) = done :=
    congrArg Prod.fst (Except.ok.inj same)
  exact ⟨u, given, resolved, by rw [names, ← same]; rfl, by rw [store, ← same]; rfl⟩

/-- A factory that is given a configuration under a name, and no dialect, shares it. -/
theorem step_factory_shared {shared : String} (null : dialect.isNull)
    (ok : (s.step (.factory name (some (.shared shared)) dialect)).2.outcome.isOk) :
    ∃ k, s.names.lookup shared = some (.config k) ∧
      (s.step (.factory name (some (.shared shared)) dialect)).1.names =
        [(name, .factory k)] ++ s.names ∧
      (s.step (.factory name (some (.shared shared)) dialect)).1.store = s.store := by
  obtain ⟨u, given, resolved, names, store⟩ := step_factory_eq ok
  obtain ⟨⟨u, k⟩, shares, same⟩ := map_eq_ok.mp resolved
  cases same
  obtain ⟨handle, found, shares⟩ := bind_eq_ok.mp shares
  cases handle <;> cases shares
  simp only [Store.makeFactory, null, if_true] at names store
  exact ⟨k, mention_eq_ok.mp found, names, store⟩

theorem resolveGiven_given (scope : s.Scoped) {config : Option ConfigSource} {u : Store}
    {g : Option Nat} (resolved : s.resolveGiven config = .ok (u, g)) :
    s.given config = some (g.elim {} (u.configs.getD · {})) := by
  cases config with
  | none =>
    cases resolved
    rfl
  | some config =>
    obtain ⟨⟨u, k⟩, made, same⟩ := map_eq_ok.mp resolved
    cases same
    cases config with
    | shared shared =>
      obtain ⟨handle, found, made⟩ := bind_eq_ok.mp made
      have bound := mention_eq_ok.mp found
      cases handle <;> cases made
      have inside := Store.config_mem_references.mp (scope.lookup bound)
      simp [given, bound, configuration, inside]
    | fields fields =>
      obtain ⟨c, read, made⟩ := bind_eq_ok.mp made
      cases made
      simp [given, read, Except.toOption]

/-- A factory with a dialect has a configuration of its own. -/
theorem owns_factory {config : Option ConfigSource} (scope : s.Scoped)
    (other : dialect.isNull = false)
    (ok : (s.step (.factory name config dialect)).2.outcome.isOk) :
    ∃ k c, s.given config = some c ∧
      (s.step (.factory name config dialect)).1.names = [(name, .factory k)] ++ s.names ∧
      (s.step (.factory name config dialect)).1.store.configs[k]? =
        some { c with dialect := dialect } ∧
      (s.step (.factory name config dialect)).1.Owns (.factory k) k := by
  obtain ⟨u, g, resolved, names, store⟩ := step_factory_eq ok
  obtain ⟨configs, builders, -⟩ := resolveGiven_settings resolved
  obtain ⟨new, starts⟩ := u.makeFactory_dialect g other
  have builders' : (s.step (.factory name config dialect)).1.store.builders.map Builder.config =
      s.store.builders.map Builder.config ++ [] := by
    rw [store, (u.makeFactory_settings g dialect).2.1, builders, List.append_nil]
  have holds : (s.step (.factory name config dialect)).1.Holds (u.makeFactory g dialect).2
      (.factory (u.makeFactory g dialect).2) := @Holds.factory _ _ name (by simp [names])
  refine ⟨_, _, resolveGiven_given scope resolved, names, by rw [store, starts], ?_⟩
  exact .of_new scope (Nat.le_trans configs.length_le new) builders' names holds nofun (by simp)
    nofun

theorem assignedTo_config {on field : String} {value : Value}
    (bound : s.names.lookup on = some (.config k)) :
    assignedTo k s (.assign on field value) = [(field, value)] := by
  have found : s.findConfig on = .ok k := by
    simp only [findConfig, find_eq_ok.mpr bound, ok_bind]
    rfl
  simp [assignedTo, found, Except.toOption]

/-- A builder that a factory makes starts with the configuration that the factory has at the time,
with the dialect of the step if there is one, and from then on that configuration changes by what is
assigned to the builder itself. A factory that is given a configuration without a dialect has that
configuration after any run, with whatever has been assigned to it. A factory that is given a
dialect starts with what it is given in that dialect, and from then on only what is assigned to the
factory itself counts. -/
theorem isolated_run (reachable : s.Reachable) (knows : s.Knows [x])
    (ok : (s.step x).2.outcome.isOk) :
    let t := (s.step x).1
    (∀ name factory columns dialect, x = .select name factory columns dialect →
      ∃ c id, s.preset factory = some c ∧ s.store.builders[id]? = none ∧
        t.names.lookup name = some (.builder id) ∧
        t.configuration (.builder id) = some (c.withDialect dialect) ∧
        t.Isolated (.builder id)) ∧
    (∀ name shared dialect, x = .factory name (some (.shared shared)) dialect → dialect.isNull →
      ∃ k c, s.names.lookup shared = some (.config k) ∧ s.configuration (.config k) = some c ∧
        t.names.lookup name = some (.factory k) ∧ ∀ xs, t.Knows xs →
          ((t.run xs).names.lookup name = some (.factory k) →
            (t.run xs).preset (some name) = (t.run xs).configuration (.config k)) ∧
          (t.run xs).configuration (.config k) =
            some (c.assignAll (along (assignedTo k) t xs)) ∧
          ∀ on field value, (t.run xs).names.lookup on = some (.config k) →
            assignedTo k (t.run xs) (.assign on field value) = [(field, value)]) ∧
    ∀ name given dialect, x = .factory name given dialect → dialect.isNull = false →
      ∃ k c, s.given given = some c ∧ t.names.lookup name = some (.factory k) ∧
        t.configuration (.factory k) = some { c with dialect := dialect } ∧
        t.Isolated (.factory k) ∧ ∀ xs, t.Knows xs →
          (t.run xs).names.lookup name = some (.factory k) →
          (t.run xs).preset (some name) = (t.run xs).configuration (.factory k) := by
  intro t
  have scope := reachable.scoped
  have scope' : t.Scoped := scope.step knows.1
  refine ⟨?_, ?_, ?_⟩
  · rintro name factory columns dialect rfl
    obtain ⟨k, c, found, inside, names, configs, -⟩ := step_select_eq scope ok
    have owns := owns_select scope ok
    refine ⟨c, s.store.builders.length, by simp [preset, found, inside, Except.toOption],
      by simp, by simp [t, names], ?_, owns.isolated scope'⟩
    rw [owns.holds.configuration, configs]
    simp
  · rintro name shared dialect rfl null
    obtain ⟨k, bound, names, store⟩ := step_factory_shared null ok
    have inside := Store.config_mem_references.mp (scope.lookup bound)
    have starts := List.getElem?_eq_getElem inside
    refine ⟨k, _, bound, starts, by simp [t, names], fun xs knows' => ⟨preset_of_bound, ?_,
      fun on field value => assignedTo_config⟩⟩
    have changed := configs_run scope' (by rwa [store]) knows'
    rw [store, starts] at changed
    exact changed
  · rintro name given dialect rfl other
    obtain ⟨k, c, gives, names, starts, owns⟩ := owns_factory scope other ok
    exact ⟨k, c, gives, by simp [t, names], starts, owns.isolated scope',
      fun xs _ => preset_of_bound⟩

/-- A configuration with a name, and a factory that shares it. -/
def pooling : List Step := [.config "c" [], .factory "f" (some (.shared "c")) .null]

def relaxing : List Step := [.assign "c" "strict_fragments" (.bool false)]

/-- A builder from before and a factory with a dialect stay strict when a configuration is made
loose, and another factory that shares it is loose. -/
theorem isolated_run_loose :
    (((initial.run pooling).step (.select "q" (some "f") [] (.text "duckdb"))).1.run
        relaxing).configuration (.builder 0) = some { dialect := .text "duckdb" } ∧
      (((initial.run pooling).step (.factory "g" (some (.shared "c")) .null)).1.run
        relaxing).preset (some "g") = some { strict := .bool false } ∧
      (((initial.run pooling).step (.factory "h" (some (.shared "c")) (.text "duckdb"))).1.run
        relaxing).preset (some "h") = some { dialect := .text "duckdb" } := by
  have reachable : (initial.run pooling).Reachable := by
    refine ⟨pooling, ?_, rfl⟩
    simp only [Knows, pooling, Step.references, namedReferences]
    decide +kernel
  have knows {t : Session} : t.Knows relaxing := ⟨List.nil_subset _, trivial⟩
  refine ⟨?_, ?_, ?_⟩
  · obtain ⟨makes, -, -⟩ := isolated_run (x := .select "q" (some "f") [] (.text "duckdb"))
      reachable ⟨by simp [Step.references, Value.references], trivial⟩ (by decide +kernel)
    obtain ⟨c, id, preset, -, bound, starts, isolated⟩ := makes _ _ _ _ rfl
    obtain rfl : 0 = id := Handle.builder.inj (Option.some.inj bound)
    obtain rfl : {} = c := Option.some.inj preset
    rw [isolated _ knows, starts]
    rfl
  · obtain ⟨-, follows, -⟩ := isolated_run (x := .factory "g" (some (.shared "c")) .null)
      reachable ⟨by simp [Step.references, ConfigSource.references, Value.references], trivial⟩
      (by decide +kernel)
    obtain ⟨k, c, shared, starts, -, later⟩ := follows _ _ _ rfl rfl
    obtain rfl : 1 = k := Handle.config.inj (Option.some.inj shared)
    obtain rfl : {} = c := Option.some.inj starts
    obtain ⟨same, changed, -⟩ := later _ knows
    rw [same (by decide +kernel), changed]
    rfl
  · obtain ⟨-, -, fixed⟩ := isolated_run (x := .factory "h" (some (.shared "c")) (.text "duckdb"))
      reachable ⟨by simp [Step.references, ConfigSource.references, Value.references], trivial⟩
      (by decide +kernel)
    obtain ⟨k, c, gives, bound, starts, isolated, same⟩ := fixed _ _ _ rfl rfl
    obtain rfl : 2 = k := Handle.factory.inj (Option.some.inj bound)
    obtain rfl : {} = c := Option.some.inj gives
    rw [same _ knows (by decide +kernel), isolated _ knows, starts]
    rfl

end Session

end SelectBuilder
