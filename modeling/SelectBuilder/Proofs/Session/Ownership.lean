import SelectBuilder.Proofs.Session.Frame
import SelectBuilder.Proofs.Session.Scope

/-!
# Owners of configurations

A configuration is held by builders, by names of its own and by factories. No step gives it to a
further holder unless it has a name of its own, so that a builder or a factory that is its only
holder remains the only one. What such a configuration is after a run is told from the assignments
to its owner.
-/
namespace SelectBuilder

open Outcome

/-- A configuration with another dialect, if there is one. -/
def Config.withDialect (c : Config) (dialect : Value) : Config :=
  if dialect.isNull then c else { c with dialect := dialect }

/-- The configuration after some assignments to its fields. -/
def Config.assignAll (c : Config) (assignments : List (String × Value)) : Config :=
  assignments.foldl (fun c a => c.assign a.1 a.2) c

theorem Step.assigns_or_not (x : Step) :
    (∃ on field value, x = .assign on field value) ∨
      ∀ on field value, x ≠ .assign on field value := by
  cases x with
  | assign on field value => exact .inl ⟨on, field, value, rfl⟩
  | _ =>
    right
    rintro on field value ⟨⟩

/-- The configuration that is meant by a name for it, or for a factory with it. -/
def Handle.config? : Handle → Option Nat
  | .builder _ => none
  | .config k => some k
  | .factory k => some k

namespace Store

variable {s t : Store} {k id : Nat} {dialect : Value}

theorem replaceDialect_eq (s : Store) (k : Nat) (dialect : Value) :
    s.replaceDialect k dialect = s.addConfig ((s.configs.getD k {}).withDialect dialect) := rfl

/-- A call leaves every builder its configuration. -/
theorem call_settings {c : Call} {report : Report} (called : s.call id c = .ok (t, report)) :
    t.configs = s.configs ∧ t.builders.map Builder.config = s.builders.map Builder.config := by
  obtain ⟨b, change, found, planned, rfl, -⟩ := call_eq_ok.mp called
  exact ⟨rfl, map_config_set found (Builder.config_apply ..)⟩

/-- A factory makes a builder with a configuration that is new. -/
theorem selectFrom_settings {columns : List Value} {report : Option Report}
    (made : s.selectFrom k columns dialect = .ok (t, id, report)) :
    id = s.builders.length ∧
      t.configs = s.configs ++ [(s.configs.getD k {}).withDialect dialect] ∧
      t.builders.map Builder.config = s.builders.map Builder.config ++ [s.configs.length] := by
  unfold selectFrom at made
  dsimp only at made
  split at made
  · cases made
    exact ⟨rfl, rfl, by simp [addBuilder, replaceDialect_eq, addConfig]⟩
  · obtain ⟨⟨u, r⟩, called, same⟩ := bind_eq_ok.mp made
    cases same
    obtain ⟨configs, builders⟩ := call_settings called
    exact ⟨rfl, configs.trans rfl,
      builders.trans (by simp [addBuilder, replaceDialect_eq, addConfig])⟩

/-- A factory has the configuration that it is given, or one that is new. -/
theorem makeFactory_settings (s : Store) (given : Option Nat) (dialect : Value) :
    s.configs <+: (s.makeFactory given dialect).1.configs ∧
      (s.makeFactory given dialect).1.builders = s.builders ∧
      ((s.makeFactory given dialect).2 ∈ given ∨
        s.configs.length ≤ (s.makeFactory given dialect).2) := by
  unfold makeFactory
  cases given with
  | none =>
    by_cases null : dialect.isNull <;>
      simp [null, replaceDialect_eq, addConfig]
  | some k =>
    by_cases null : dialect.isNull <;>
      simp [null, replaceDialect_eq, addConfig]

/-- A factory with a dialect has a configuration that is new. -/
theorem makeFactory_dialect (s : Store) (given : Option Nat) (other : dialect.isNull = false) :
    s.configs.length ≤ (s.makeFactory given dialect).2 ∧
      (s.makeFactory given dialect).1.configs[(s.makeFactory given dialect).2]? =
        some { given.elim {} (s.configs.getD · {}) with dialect := dialect } := by
  unfold makeFactory
  cases given <;> simp [other, replaceDialect, addConfig]

/-- A copied builder has a configuration that is new. -/
theorem Scoped.copy_settings (h : s.Scoped) (inside : .builder id ∈ s.references) :
    s.configs <+: (s.copy id).1.configs ∧
      ∃ ks, (s.copy id).1.builders.map Builder.config = s.builders.map Builder.config ++ ks ∧
        ∀ k ∈ ks, s.configs.length ≤ k := by
  rw [copy_eq]
  refine ⟨List.prefix_append _ _, _, List.map_append, fun k hk => ?_⟩
  simp only [List.map_map, List.mem_map, List.mem_filterMap] at hk
  obtain ⟨b, ⟨i, hi, found⟩, rfl⟩ := hk
  have reached : .config b.config ∈ s.reached (.builder id) :=
    h.reached inside _ _ (mem_copiedBuilders.mp hi) (by simp [links_builder found])
  exact le_place (mem_copiedConfigs.mpr reached)

end Store

namespace Session

variable {s t done : Session} {x : Step} {k : Nat} {o : Handle} {name : String}

/-- What keeps a configuration: a builder, a name for it, or a factory that has a name. -/
inductive Holds (s : Session) (k : Nat) : Handle → Prop where
  | builder {i : Nat} (config : s.store.builders[i]?.map Builder.config = some k) :
      Holds s k (.builder i)
  | config {name : String} (named : (name, .config k) ∈ s.names) : Holds s k (.config k)
  | factory {name : String} (named : (name, .factory k) ∈ s.names) : Holds s k (.factory k)

/-- The object holds a configuration alone, and no name stands for the configuration itself. -/
structure Owns (s : Session) (o : Handle) (k : Nat) : Prop where
  holds : s.Holds k o
  alone : ∀ h, s.Holds k h → h = o
  unnamed : o ≠ .config k

/-- A configuration that may find further holders: a new one, or one with a name. -/
def Open (s : Session) (k : Nat) : Prop :=
  s.store.configs.length ≤ k ∨ ∃ name, (name, .config k) ∈ s.names

/-- A later session with the same configurations and some more, in which only open ones have found
further holders. -/
structure Extends (s t : Session) : Prop where
  configs : s.store.configs <+: t.store.configs
  builders : ∃ ks, t.store.builders.map Builder.config = s.store.builders.map Builder.config ++ ks ∧
    ∀ k ∈ ks, s.Open k
  names : ∃ bound, t.names = bound ++ s.names ∧ ∀ p ∈ bound, ∀ k ∈ p.2.config?, s.Open k

theorem Extends.of_settings (configs : t.store.configs = s.store.configs)
    (builders : t.store.builders.map Builder.config = s.store.builders.map Builder.config)
    (names : t.names = s.names) : s.Extends t where
  configs := configs ▸ List.prefix_rfl
  builders := ⟨[], by simpa using builders, nofun⟩
  names := ⟨[], by simpa using names, nofun⟩

theorem Extends.of_same (store : t.store = s.store) (names : t.names = s.names) : s.Extends t :=
  .of_settings (by rw [store]) (by rw [store]) names

theorem Holds.mono (h : s.Extends t) (holds : s.Holds k o) : t.Holds k o := by
  obtain ⟨ks, builders, -⟩ := h.builders
  obtain ⟨bound, names, -⟩ := h.names
  cases holds with
  | @builder i config =>
    refine .builder ?_
    rw [← List.getElem?_map] at config ⊢
    rw [builders, List.getElem?_append_left (List.getElem?_eq_some_iff.mp config).1, config]
  | config named => exact .config (by rw [names]; exact List.mem_append_right _ named)
  | factory named => exact .factory (by rw [names]; exact List.mem_append_right _ named)

/-- A holder has been there before, or it is a further builder, or a further name stands for it. -/
theorem Holds.grown {ks : List Nat} {bound : List (String × Handle)}
    (builders : t.store.builders.map Builder.config = s.store.builders.map Builder.config ++ ks)
    (names : t.names = bound ++ s.names) (holds : t.Holds k o) :
    s.Holds k o ∨ (∃ i, ks[i]? = some k ∧ o = .builder (s.store.builders.length + i)) ∨
      ∃ p ∈ bound, p.2 = o ∧ k ∈ p.2.config? := by
  cases holds with
  | @builder i config =>
    rw [← List.getElem?_map, builders, List.getElem?_append, List.length_map] at config
    split at config
    · rw [List.getElem?_map] at config
      exact .inl (.builder config)
    · exact .inr (.inl ⟨_, config, congrArg Handle.builder (by omega)⟩)
  | config named =>
    rw [names] at named
    rcases List.mem_append.mp named with new | old
    · exact .inr (.inr ⟨_, new, rfl, rfl⟩)
    · exact .inl (.config old)
  | factory named =>
    rw [names] at named
    rcases List.mem_append.mp named with new | old
    · exact .inr (.inr ⟨_, new, rfl, rfl⟩)
    · exact .inl (.factory old)

theorem Holds.before (h : s.Extends t) (holds : t.Holds k o) : s.Holds k o ∨ s.Open k := by
  obtain ⟨ks, builders, fresh⟩ := h.builders
  obtain ⟨bound, names, fresh'⟩ := h.names
  rcases holds.grown builders names with old | ⟨i, new, -⟩ | ⟨p, new, -, same⟩
  · exact .inl old
  · exact .inr (fresh k (List.mem_of_getElem? new))
  · exact .inr (fresh' p new k same)

theorem Holds.inside (scope : s.Scoped) (holds : s.Holds k o) : k < s.store.configs.length := by
  cases holds with
  | builder config =>
    obtain ⟨b, found, rfl⟩ := Option.map_eq_some_iff.mp config
    exact scope.store.settings b (List.mem_of_getElem? found)
  | config named => exact Store.config_mem_references.mp (scope.names _ named)
  | factory named => exact Store.config_mem_references.mp (scope.names _ named)

theorem Owns.not_open (scope : s.Scoped) (h : s.Owns o k) : ¬s.Open k := by
  rintro (new | ⟨name, named⟩)
  · have := h.holds.inside scope
    omega
  · exact h.unnamed (h.alone _ (.config named)).symm

theorem Owns.mono (scope : s.Scoped) (h : s.Owns o k) (later : s.Extends t) : t.Owns o k where
  holds := h.holds.mono later
  alone h' holds := by
    rcases holds.before later with old | new
    · exact h.alone h' old
    · exact absurd new (h.not_open scope)
  unnamed := h.unnamed

/-! ## What a step does to the holders -/

theorem mem_names_of_lookup (bound : s.names.lookup name = some o) : (name, o) ∈ s.names := by
  obtain ⟨before, after, split, -⟩ := List.lookup_eq_some_iff.mp bound
  simp [split]

theorem resolveConfig_settings {config : ConfigSource} {u : Store}
    (resolved : s.resolveConfig config = .ok (u, k)) :
    s.store.configs <+: u.configs ∧ u.builders = s.store.builders ∧ s.Open k := by
  cases config with
  | shared name =>
    obtain ⟨handle, found, resolved⟩ := bind_eq_ok.mp resolved
    cases handle <;> cases resolved
    exact ⟨List.prefix_rfl, rfl, .inr ⟨name, mem_names_of_lookup (mention_eq_ok.mp found)⟩⟩
  | fields fields =>
    obtain ⟨c, -, resolved⟩ := bind_eq_ok.mp resolved
    cases resolved
    exact ⟨List.prefix_append _ _, rfl, .inl (Nat.le_refl _)⟩

theorem resolveGiven_settings {config : Option ConfigSource} {u : Store} {given : Option Nat}
    (resolved : s.resolveGiven config = .ok (u, given)) :
    s.store.configs <+: u.configs ∧ u.builders = s.store.builders ∧ ∀ k ∈ given, s.Open k := by
  cases config with
  | none =>
    cases resolved
    exact ⟨List.prefix_rfl, rfl, nofun⟩
  | some config =>
    obtain ⟨⟨u, k⟩, made, same⟩ := map_eq_ok.mp resolved
    cases same
    obtain ⟨configs, builders, free⟩ := resolveConfig_settings made
    exact ⟨configs, builders, by simpa using free⟩

/-- A name that is bound to an object of which the session knew, or to a new one. -/
theorem Extends.bind {u : Store} {handle : Handle} (name : String)
    (configs : s.store.configs <+: u.configs)
    (builders : ∃ ks, u.builders.map Builder.config = s.store.builders.map Builder.config ++ ks ∧
      ∀ k ∈ ks, s.Open k) (free : ∀ k ∈ handle.config?, s.Open k) :
    s.Extends ({ s with store := u }.bind name handle) where
  configs := configs
  builders := builders
  names := ⟨[(name, handle)], rfl, by simpa using free⟩

theorem runFactory_extends {config : Option ConfigSource} {dialect : Value} {result : Result}
    {report : Option Store.Report}
    (made : s.runFactory name config dialect = .ok (done, result, report)) : s.Extends done := by
  obtain ⟨⟨u, given⟩, resolved, same⟩ := bind_eq_ok.mp made
  cases same
  obtain ⟨configs, builders, free⟩ := resolveGiven_settings resolved
  obtain ⟨configs', builders', known⟩ := u.makeFactory_settings given dialect
  have settings := congrArg (List.map Builder.config) (builders'.trans builders)
  refine .bind name (configs.trans configs') ⟨[], settings.trans (List.append_nil _).symm, nofun⟩ ?_
  rintro k ⟨⟩
  rcases known with same | new
  · exact free _ same
  · exact .inl (Nat.le_trans configs.length_le new)

theorem selectFrom_extends {factory id : Nat} {columns : List Value} {dialect : Value} {u : Store}
    {report : Option Store.Report}
    (made : s.store.selectFrom factory columns dialect = .ok (u, id, report)) :
    s.store.configs <+: u.configs ∧
      ∃ ks, u.builders.map Builder.config = s.store.builders.map Builder.config ++ ks ∧
        ∀ k ∈ ks, s.Open k := by
  obtain ⟨-, configs, builders⟩ := Store.selectFrom_settings made
  refine ⟨configs ▸ List.prefix_append _ _, _, builders, fun k hk => ?_⟩
  obtain rfl := List.mem_singleton.mp hk
  exact .inl (Nat.le_refl _)

theorem runFactoryCall_extends {config : Nat} {method : String} {args : List Value}
    {named : List (String × Value)} {result : Result} {report : Option Store.Report}
    (made : s.runFactoryCall config method args named = .ok (done, result, report)) :
    s.Extends done := by
  unfold runFactoryCall at made
  split at made
  · obtain ⟨⟨u, id, r⟩, selected, same⟩ := bind_eq_ok.mp made
    cases same
    obtain ⟨configs, builders⟩ := selectFrom_extends selected
    exact ⟨configs, builders, [], rfl, nofun⟩
  · split at made
    · obtain ⟨v, -, same⟩ := bind_eq_ok.mp made
      cases same
      exact .of_same rfl rfl
    · cases made

theorem runCall_extends {on method : String} {args : List Value} {named : List (String × Value)}
    {result : Result} {report : Option Store.Report}
    (none : s.request? (.call on method args named) = none)
    (made : s.runCall on method args named = .ok (done, result, report)) : s.Extends done := by
  have called := made
  obtain ⟨-, -, made⟩ := bind_eq_ok.mp made
  obtain ⟨handle, found, made⟩ := bind_eq_ok.mp made
  cases handle with
  | builder id => exact (runCall_builder (find_eq_ok.mp found) none called).1 ▸ .of_same rfl rfl
  | factory config => exact runFactoryCall_extends made
  | config id => cases made

/-- A step that assigns nothing leaves all configurations, and further holders find open ones
only. -/
theorem effect_extends (scope : s.Scoped) {result : Result} {report : Option Store.Report}
    (other : ∀ on field value, x ≠ .assign on field value) (asked : s.request? x = none)
    (made : s.effect x = .ok (done, result, report)) : s.Extends done := by
  cases x with
  | new name config =>
    obtain ⟨⟨u, k⟩, resolved, same⟩ := bind_eq_ok.mp made
    cases same
    obtain ⟨configs, builders, free⟩ := resolveConfig_settings resolved
    exact .bind name configs ⟨[k], by simp [builders], by simpa using free⟩ nofun
  | config name fields =>
    obtain ⟨c, -, same⟩ := bind_eq_ok.mp made
    cases same
    refine .bind name (List.prefix_append _ _) ⟨[], by simp, nofun⟩ ?_
    rintro k ⟨⟩
    exact .inl (Nat.le_refl _)
  | factory name config dialect => exact runFactory_extends made
  | select name factory columns dialect =>
    obtain ⟨k, -, made⟩ := bind_eq_ok.mp made
    obtain ⟨⟨u, id, r⟩, selected, same⟩ := bind_eq_ok.mp made
    cases same
    obtain ⟨configs, builders⟩ := selectFrom_extends selected
    exact .bind name configs builders nofun
  | call on method args named => exact runCall_extends asked made
  | copy on name =>
    obtain ⟨id, found, same⟩ := bind_eq_ok.mp made
    cases same
    obtain ⟨configs, ks, builders, fresh⟩ :=
      scope.store.copy_settings (scope.lookup (findBuilder_eq_ok.mp found))
    exact .bind name configs ⟨ks, builders, fun k hk => .inl (fresh k hk)⟩ nofun
  | build on => exact (runBuild_eq_ok made).1 ▸ .of_same rfl rfl
  | clauses on =>
    obtain ⟨id, -, made⟩ := bind_eq_ok.mp made
    obtain ⟨texts, -, same⟩ := bind_eq_ok.mp made
    cases same
    exact .of_same rfl rfl
  | quoted on => exact (runQuoted_eq_ok made).1 ▸ .of_same rfl rfl
  | text on =>
    obtain ⟨id, -, made⟩ := bind_eq_ok.mp made
    obtain ⟨sql, -, same⟩ := bind_eq_ok.mp made
    cases same
    exact .of_same rfl rfl
  | read on reader =>
    obtain ⟨id, -, made⟩ := bind_eq_ok.mp made
    obtain ⟨parsed, -, same⟩ := bind_eq_ok.mp made
    cases same
    exact .of_same rfl rfl
  | assign on field value => exact absurd rfl (other on field value)
  | settings on =>
    obtain ⟨k, -, same⟩ := bind_eq_ok.mp made
    cases same
    exact .of_same rfl rfl
  | equal a b =>
    obtain ⟨flag, -, same⟩ := bind_eq_ok.mp made
    cases same
    exact .of_same rfl rfl
  | correlate id =>
    cases made
    exact .of_same rfl rfl
  | configure level structured file extra =>
    obtain ⟨logging, -, same⟩ := bind_eq_ok.mp made
    cases same
    exact .of_same rfl rfl
  | event logger template args fields =>
    simp only [Session.effect, runEvent] at made
    split at made
    · cases made
    · cases made
      exact .of_same rfl rfl

theorem extends_step (scope : s.Scoped) (other : ∀ on field value, x ≠ .assign on field value) :
    s.Extends (s.step x).1 := by
  cases asked : s.request? x with
  | none =>
    rcases s.step_cases x asked with ⟨store, names⟩ | ⟨done, result, report, made, store, names⟩
    · exact .of_same store names
    · obtain ⟨configs, builders, bound⟩ := effect_extends scope other asked made
      exact ⟨store ▸ configs, store ▸ builders, names ▸ bound⟩
  | some p =>
    cases called : s.store.call p.1 p.2 with
    | error e =>
      obtain ⟨same, -⟩ := step_refused asked called
      exact .of_same (by rw [same]) (by rw [same])
    | ok q =>
      obtain ⟨store, names, -⟩ := step_called asked called
      obtain ⟨configs, builders⟩ := Store.call_settings called
      exact .of_settings (by rw [store, configs]) (by rw [store, builders]) names

/-! ## Assignments -/

/-- The configuration that an object has. -/
def configuration (s : Session) : Handle → Option Config
  | .builder i => s.store.builders[i]?.bind fun b => s.store.configs[b.config]?
  | .config k => s.store.configs[k]?
  | .factory k => s.store.configs[k]?

theorem Holds.configuration (holds : s.Holds k o) : s.configuration o = s.store.configs[k]? := by
  cases holds with
  | builder config =>
    obtain ⟨b, found, rfl⟩ := Option.map_eq_some_iff.mp config
    simp [Session.configuration, found]
  | config => rfl
  | factory => rfl

/-- The field and the value that a step assigns to a configuration, under whatever name. -/
def assignedTo (k : Nat) (s : Session) : Step → List (String × Value)
  | .assign on field value =>
    if (s.findConfig on).toOption = some k then [(field, value)] else []
  | _ => []

/-- The field and the value that a step assigns to an object by a name for it. -/
def assigned (o : Handle) (s : Session) : Step → List (String × Value)
  | .assign on field value => if s.names.lookup on = some o then [(field, value)] else []
  | _ => []

/-- What the steps of a run assign, in order. -/
def along (f : Session → Step → List (String × Value)) (s : Session) :
    List Step → List (String × Value)
  | [] => []
  | x :: xs => f s x ++ along f (s.step x).1 xs

theorem step_unassigned {on field : String} {value : Value} {e : Failure}
    (missing : s.findConfig on = .error e) : (s.step (.assign on field value)).1 = s := by
  have failed : s.effect (.assign on field value) = .error e := by
    simp only [effect, runAssign, missing, error_bind]
  simp [step, stepWith, failed, afterFailure]

/-- A configuration changes by what is assigned to it, and by nothing else. -/
theorem configs_step (scope : s.Scoped) (inside : k < s.store.configs.length) (x : Step) :
    (s.step x).1.store.configs[k]? =
      (s.store.configs[k]?).map (·.assignAll (assignedTo k s x)) := by
  rcases x.assigns_or_not with ⟨on, field, value, rfl⟩ | other
  · cases found : s.findConfig on with
    | error e =>
      simp [step_unassigned found, assignedTo, found, Except.toOption, Config.assignAll]
    | ok k' =>
      obtain ⟨-, store⟩ := @step_assign s on field value k' found
      by_cases same : k' = k
      · subst same
        simp [store, Store.setConfig, assignedTo, found, inside, Except.toOption,
          Config.assignAll]
      · simp [store, Store.setConfig, assignedTo, found, same, Except.toOption,
          Config.assignAll]
  · have none : assignedTo k s x = [] := by
      unfold assignedTo
      split
      · exact absurd rfl (other _ _ _)
      · rfl
    obtain ⟨added, configs⟩ := (extends_step scope other).configs
    rw [← configs, List.getElem?_append_left inside, none]
    simp [Config.assignAll]

theorem configs_run (scope : s.Scoped) (inside : k < s.store.configs.length) {xs : List Step}
    (knows : s.Knows xs) :
    (s.run xs).store.configs[k]? =
      (s.store.configs[k]?).map (·.assignAll (along (assignedTo k) s xs)) := by
  induction xs generalizing s with
  | nil => simp [along, Config.assignAll]
  | cons x xs ih =>
    have first := configs_step scope inside x
    have inside' : k < (s.step x).1.store.configs.length := by
      rw [List.getElem?_eq_getElem inside] at first
      exact (List.getElem?_eq_some_iff.mp first).1
    rw [run_cons, ih (scope.step knows.1) inside' knows.2, first, Option.map_map]
    simp [along, Config.assignAll, Function.comp_def]

/-! ## Assignments to an owner -/

/-- Whose configuration is found under a name, holds it. -/
theorem holds_of_findConfig {on : String} (found : s.findConfig on = .ok k) :
    ∃ h, s.names.lookup on = some h ∧ s.Holds k h := by
  obtain ⟨h, named, found⟩ := bind_eq_ok.mp found
  have bound := find_eq_ok.mp named
  have among := mem_names_of_lookup bound
  refine ⟨h, bound, ?_⟩
  cases h with
  | builder i =>
    obtain ⟨b, inside, same⟩ := bind_eq_ok.mp found
    cases same
    refine .builder ?_
    unfold Store.builder at inside
    split at inside
    · next b' stands =>
      cases inside
      rw [stands]
      rfl
    · cases inside
  | config k' =>
    cases found
    exact .config among
  | factory k' =>
    cases found
    exact .factory among

theorem Holds.findConfig {on : String} (holds : s.Holds k o) (bound : s.names.lookup on = some o) :
    s.findConfig on = .ok k := by
  unfold Session.findConfig
  rw [find_eq_ok.mpr bound, ok_bind]
  cases holds with
  | builder config =>
    obtain ⟨b, found, rfl⟩ := Option.map_eq_some_iff.mp config
    simp only [Store.builder, found, ok_bind]
    rfl
  | config => rfl
  | factory => rfl

/-- A configuration that has an owner is reached by the names for the owner only. -/
theorem Owns.assignedTo_eq (h : s.Owns o k) (x : Step) : assignedTo k s x = assigned o s x := by
  cases x with
  | assign on field value =>
    have reached : (s.findConfig on).toOption = some k ↔ s.names.lookup on = some o := by
      rw [toOption_eq_some]
      refine ⟨fun found => ?_, h.holds.findConfig⟩
      obtain ⟨o', bound, holds⟩ := holds_of_findConfig found
      rw [bound, h.alone o' holds]
    simp only [assignedTo, assigned, reached]
  | _ => rfl

theorem Holds.congr (builders : t.store.builders = s.store.builders) (names : t.names = s.names) :
    t.Holds k o ↔ s.Holds k o := by
  constructor <;> intro holds <;> cases holds with
  | builder config => exact .builder (by simpa [builders] using config)
  | config named => exact .config (by simpa [names] using named)
  | factory named => exact .factory (by simpa [names] using named)

theorem Owns.congr (h : s.Owns o k) (builders : t.store.builders = s.store.builders)
    (names : t.names = s.names) : t.Owns o k where
  holds := (Holds.congr builders names).mpr h.holds
  alone h' holds := h.alone h' ((Holds.congr builders names).mp holds)
  unnamed := h.unnamed

/-- An owner stays one. -/
theorem Owns.step (scope : s.Scoped) (h : s.Owns o k) (x : Step) : (s.step x).1.Owns o k := by
  rcases x.assigns_or_not with ⟨on, field, value, rfl⟩ | other
  · cases found : s.findConfig on with
    | error e => rwa [step_unassigned found]
    | ok k' =>
      obtain ⟨names, store⟩ := @step_assign s on field value k' found
      exact h.congr (by rw [store]; rfl) names
  · exact h.mono scope (extends_step scope other)

theorem Owns.run (scope : s.Scoped) (h : s.Owns o k) {xs : List Step} (knows : s.Knows xs) :
    (s.run xs).Owns o k ∧ along (assignedTo k) s xs = along (assigned o) s xs := by
  induction xs generalizing s with
  | nil => exact ⟨h, rfl⟩
  | cons x xs ih =>
    obtain ⟨owns, later⟩ := ih (scope.step knows.1) (h.step scope x) knows.2
    exact ⟨owns, by simp only [along, h.assignedTo_eq, later]⟩

/-- What is owned changes by what is assigned to its owner alone. -/
theorem Owns.configuration_run (scope : s.Scoped) (h : s.Owns o k) {xs : List Step}
    (knows : s.Knows xs) :
    (s.run xs).configuration o =
      (s.configuration o).map (·.assignAll (along (assigned o) s xs)) := by
  obtain ⟨owns, same⟩ := h.run scope knows
  rw [owns.holds.configuration, configs_run scope (h.holds.inside scope) knows, same,
    h.holds.configuration]

end Session

end SelectBuilder
