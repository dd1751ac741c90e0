import SelectBuilder.Proofs.Builder.Operands
import SelectBuilder.Proofs.Session.Run
import SelectBuilder.Proofs.Store.Copying

/-!
# Sessions without dangling references

A reference stands for an object that is there. While the operands of the steps of a run are of this
kind, everything in the session is.
-/
namespace SelectBuilder

open Outcome

/-- The references in named operands. -/
def namedReferences (named : List (String × Value)) : List Reference :=
  named.flatMap fun n => n.2.references

def ConfigSource.references : ConfigSource → List Reference
  | .shared _ => []
  | .fields named => namedReferences named

/-- The references among the operands of a step. -/
def Step.references : Step → List Reference
  | .new _ source => source.references
  | .config _ fields => namedReferences fields
  | .factory _ given dialect => given.toList.flatMap ConfigSource.references ++ dialect.references
  | .select _ _ columns dialect => columns.flatMap Value.references ++ dialect.references
  | .call _ _ args named => args.flatMap Value.references ++ namedReferences named
  | .assign _ _ value => value.references
  | .equal a b => a.references ++ b.references
  | .event _ _ args fields => args.flatMap Value.references ++ namedReferences fields
  | _ => []

/-- The object that a handle stands for; a factory is its configuration. -/
def Handle.object : Handle → Reference
  | .builder id => .builder id
  | .config id => .config id
  | .factory id => .config id

namespace Config

theorem references_ofFields {fields : List (String × Value)} {c : Config}
    (h : ofFields fields = .ok c) : c.references ⊆ namedReferences fields := by
  have get (name : String) {default : Value} (plain : default.references = []) :
      ((fields.lookup name).getD default).references ⊆ namedReferences fields := by
    cases found : fields.lookup name with
    | none => simp [plain]
    | some v =>
      obtain ⟨before, after, split, -⟩ := List.lookup_eq_some_iff.mp found
      exact fun x hx => List.mem_flatMap.mpr ⟨(name, v), by simp [split], hx⟩
  unfold ofFields at h
  split at h
  · cases h
    simp only [references, Config.fields, List.flatMap_cons, List.flatMap_nil, List.append_nil,
      List.append_subset]
    exact ⟨get _ rfl, get _ rfl, get _ rfl⟩
  · cases h

theorem references_assign (c : Config) (field : String) (v : Value) :
    (c.assign field v).references ⊆ c.references ++ v.references := by
  intro x hx
  simp only [references, fields_assign, List.mem_flatMap, List.mem_map] at hx
  obtain ⟨g, ⟨f, hf, rfl⟩, inside⟩ := hx
  split at inside
  · exact List.mem_append_right _ inside
  · exact List.mem_append_left _ (List.mem_flatMap.mpr ⟨f, hf, inside⟩)

end Config

namespace Store

variable {s t : Store} {id k : Nat}

theorem Scoped.call (h : s.Scoped) {c : Call} {report : Report}
    (inside : c.references ⊆ s.references) (called : s.call id c = .ok (t, report)) :
    s.Widens t ∧ t.builders.length = s.builders.length := by
  obtain ⟨b, change, found, planned, rfl, -⟩ := call_eq_ok.mp called
  exact ⟨h.apply found planned inside _, by simp⟩

theorem Scoped.selectFrom (h : s.Scoped) {columns : List Value} {dialect : Value}
    {report : Option Report} (operands : columns.flatMap Value.references ⊆ s.references)
    (inside : dialect.references ⊆ s.references)
    (made : s.selectFrom k columns dialect = .ok (t, id, report)) :
    s.Widens t ∧ id < t.builders.length := by
  obtain ⟨widens, last⟩ := h.replaceDialect inside k
  obtain ⟨wider, newest⟩ := widens.scope.addBuilder
    (b := { config := (s.replaceDialect k dialect).2 }) last (List.nil_subset _)
  unfold Store.selectFrom at made
  dsimp only at made
  split at made
  · cases made
    exact ⟨widens.trans wider, newest⟩
  · obtain ⟨⟨u, r⟩, called, same⟩ := bind_eq_ok.mp made
    cases same
    have kept := List.Subset.trans operands (widens.trans wider).inside
    obtain ⟨final, lengths⟩ := wider.scope.call (c := .select columns) kept called
    exact ⟨(widens.trans wider).trans final, lengths ▸ newest⟩

end Store

namespace Session

variable {s done : Session} {x : Step} {name : String} {t : Store} {k : Nat}

/-- Nothing in a session dangles. The configuration numbered zero is always there. -/
structure Scoped (s : Session) : Prop where
  store : s.store.Scoped
  names : ∀ p ∈ s.names, p.2.object ∈ s.store.references
  main : .config 0 ∈ s.store.references

theorem scoped_initial : initial.Scoped where
  store := ⟨nofun, nofun, by simp [initial, Config.references, Config.fields]⟩
  names := nofun
  main := by simp [initial, Store.references]

theorem Scoped.of_widens (h : s.Scoped) (widens : s.store.Widens done.store)
    (names : done.names = s.names) : done.Scoped where
  store := widens.scope
  names p hp := widens.inside (h.names p (names ▸ hp))
  main := widens.inside h.main

theorem Scoped.of_same (h : s.Scoped) (store : done.store = s.store)
    (names : done.names = s.names) : done.Scoped :=
  h.of_widens (by rw [store]; exact .refl h.store) names

/-- A name may be given to an object of the store once it has grown. -/
theorem Scoped.bind (h : s.Scoped) (name : String) (widens : s.store.Widens t) {handle : Handle}
    (inside : handle.object ∈ t.references) :
    ({ s with store := t }.bind name handle).Scoped where
  store := widens.scope
  names := List.forall_mem_cons.mpr ⟨inside, fun p hp => widens.inside (h.names p hp)⟩
  main := widens.inside h.main

theorem Scoped.lookup (h : s.Scoped) {handle : Handle}
    (found : s.names.lookup name = some handle) : handle.object ∈ s.store.references := by
  obtain ⟨before, after, split, -⟩ := List.lookup_eq_some_iff.mp found
  exact h.names (name, handle) (by simp [split])

theorem mention_eq_ok {handle : Handle} :
    s.mention name = .ok handle ↔ s.names.lookup name = some handle := by
  unfold mention
  cases s.names.lookup name <;> simp

theorem Scoped.resolveConfig (h : s.Scoped) {config : ConfigSource}
    (inside : config.references ⊆ s.store.references)
    (resolved : s.resolveConfig config = .ok (t, k)) :
    s.store.Widens t ∧ k < t.configs.length := by
  cases config with
  | shared name =>
    obtain ⟨handle, found, resolved⟩ := bind_eq_ok.mp resolved
    cases handle <;> cases resolved
    exact ⟨.refl h.store, Store.config_mem_references.mp (h.lookup (mention_eq_ok.mp found))⟩
  | fields fields =>
    obtain ⟨c, made, resolved⟩ := bind_eq_ok.mp resolved
    cases resolved
    exact h.store.addConfig (List.Subset.trans (Config.references_ofFields made) inside)

theorem Scoped.resolveGiven (h : s.Scoped) {config : Option ConfigSource} {given : Option Nat}
    (inside : config.toList.flatMap ConfigSource.references ⊆ s.store.references)
    (resolved : s.resolveGiven config = .ok (t, given)) :
    s.store.Widens t ∧ ∀ k ∈ given, k < t.configs.length := by
  cases config with
  | none =>
    cases resolved
    exact ⟨.refl h.store, nofun⟩
  | some config =>
    obtain ⟨⟨u, k⟩, made, same⟩ := map_eq_ok.mp resolved
    cases same
    obtain ⟨widens, last⟩ := h.resolveConfig (by simpa using inside) made
    exact ⟨widens, by simpa using last⟩

theorem Scoped.runFactoryCall (h : s.Scoped) {method : String} {args : List Value}
    {named : List (String × Value)} {result : Result} {report : Option Store.Report}
    (inside : args.flatMap Value.references ++ namedReferences named ⊆ s.store.references)
    (made : s.runFactoryCall k method args named = .ok (done, result, report)) : done.Scoped := by
  obtain ⟨operands, others⟩ := List.append_subset.mp inside
  unfold Session.runFactoryCall at made
  split at made
  · obtain ⟨⟨u, id, r⟩, selected, same⟩ := bind_eq_ok.mp made
    cases same
    have dialect : ((named.lookup "dialect").getD .null).references ⊆ s.store.references := by
      cases found : named.lookup "dialect" with
      | none => simp
      | some v =>
        obtain ⟨before, after, split, -⟩ := List.lookup_eq_some_iff.mp found
        exact fun x hx => others (List.mem_flatMap.mpr ⟨("dialect", v), by simp [split], hx⟩)
    exact h.of_widens (h.store.selectFrom operands dialect selected).1 rfl
  · split at made
    · obtain ⟨v, -, same⟩ := bind_eq_ok.mp made
      cases same
      exact h
    · cases made

theorem Scoped.runCall (h : s.Scoped) {on method : String} {args : List Value}
    {named : List (String × Value)} {result : Result} {report : Option Store.Report}
    (inside : args.flatMap Value.references ++ namedReferences named ⊆ s.store.references)
    (made : s.runCall on method args named = .ok (done, result, report)) : done.Scoped := by
  obtain ⟨-, -, made⟩ := bind_eq_ok.mp made
  obtain ⟨handle, -, made⟩ := bind_eq_ok.mp made
  cases handle with
  | builder id =>
    dsimp only at made
    split at made
    · exact (runInquiry_eq_ok made).1 ▸ h
    · split at made
      · cases made
      · obtain ⟨c, asked, made⟩ := bind_eq_ok.mp made
        obtain ⟨⟨u, r⟩, called, same⟩ := bind_eq_ok.mp made
        cases same
        have operands := List.Subset.trans (Call.references_ofMethod asked) inside
        exact h.of_widens (h.store.call operands called).1 rfl
  | factory config => exact h.runFactoryCall inside made
  | config id => cases made

/-- A step leaves nothing dangling if its operands do not. -/
theorem Scoped.effect (h : s.Scoped) {result : Result} {report : Option Store.Report}
    (knows : x.references ⊆ s.store.references)
    (made : s.effect x = .ok (done, result, report)) : done.Scoped := by
  cases x with
  | new name config =>
    obtain ⟨⟨t, k⟩, resolved, same⟩ := bind_eq_ok.mp made
    cases same
    obtain ⟨widens, last⟩ := h.resolveConfig knows resolved
    obtain ⟨wider, newest⟩ :=
      widens.scope.addBuilder (b := { config := k }) last (List.nil_subset _)
    exact h.bind name (widens.trans wider) (Store.builder_mem_references.mpr newest)
  | config name fields =>
    obtain ⟨c, fine, same⟩ := bind_eq_ok.mp made
    cases same
    have inside := List.Subset.trans (Config.references_ofFields fine) knows
    obtain ⟨widens, last⟩ := h.store.addConfig inside
    exact h.bind name widens (Store.config_mem_references.mpr last)
  | factory name config dialect =>
    obtain ⟨⟨t, given⟩, resolved, same⟩ := bind_eq_ok.mp made
    cases same
    obtain ⟨source, inside⟩ := List.append_subset.mp knows
    obtain ⟨widens, known⟩ := h.resolveGiven source resolved
    obtain ⟨wider, last⟩ :=
      widens.scope.makeFactory known (List.Subset.trans inside widens.inside)
    exact h.bind name (widens.trans wider) (Store.config_mem_references.mpr last)
  | select name factory columns dialect =>
    obtain ⟨k, -, made⟩ := bind_eq_ok.mp made
    obtain ⟨⟨t, id, r⟩, selected, same⟩ := bind_eq_ok.mp made
    cases same
    obtain ⟨operands, inside⟩ := List.append_subset.mp knows
    obtain ⟨widens, newest⟩ := h.store.selectFrom operands inside selected
    exact h.bind name widens (Store.builder_mem_references.mpr newest)
  | call on method args named => exact h.runCall knows made
  | copy on name =>
    obtain ⟨id, found, same⟩ := bind_eq_ok.mp made
    cases same
    have inside := h.lookup (findBuilder_eq_ok.mp found)
    have widens : s.store.Widens (s.store.copy id).1 :=
      ⟨h.store.copy inside, (s.store.keeps_copy id).inside⟩
    exact h.bind name widens (h.store.copy_inside inside)
  | build on => exact (runBuild_eq_ok made).1 ▸ h
  | clauses on =>
    obtain ⟨id, -, made⟩ := bind_eq_ok.mp made
    obtain ⟨texts, -, same⟩ := bind_eq_ok.mp made
    cases same
    exact h
  | quoted on => exact (runQuoted_eq_ok made).1 ▸ h
  | text on =>
    obtain ⟨id, -, made⟩ := bind_eq_ok.mp made
    obtain ⟨sql, -, same⟩ := bind_eq_ok.mp made
    cases same
    exact h
  | read on reader =>
    obtain ⟨id, -, made⟩ := bind_eq_ok.mp made
    obtain ⟨parsed, -, same⟩ := bind_eq_ok.mp made
    cases same
    exact h
  | assign on field value =>
    obtain ⟨k, found, same⟩ := bind_eq_ok.mp made
    cases same
    refine h.of_widens (h.store.setConfig ?_) rfl
    exact List.Subset.trans (Config.references_assign _ field value)
      (List.append_subset.mpr ⟨h.store.configs k, knows⟩)
  | settings on =>
    obtain ⟨k, -, same⟩ := bind_eq_ok.mp made
    cases same
    exact h
  | equal a b =>
    obtain ⟨flag, -, same⟩ := bind_eq_ok.mp made
    cases same
    exact h
  | correlate id =>
    cases made
    exact h.of_same rfl rfl
  | configure level structured file extra =>
    obtain ⟨logging, -, same⟩ := bind_eq_ok.mp made
    cases same
    exact h.of_same rfl rfl
  | event logger template args fields =>
    simp only [Session.effect, runEvent] at made
    split at made
    · cases made
    · cases made
      exact h.of_same rfl rfl

theorem Scoped.step (h : s.Scoped) (knows : x.references ⊆ s.store.references) :
    (s.step x).1.Scoped := by
  cases asked : s.request? x with
  | none =>
    rcases s.step_cases x asked with ⟨store, names⟩ | ⟨done, result, report, made, store, names⟩
    · exact h.of_same store names
    · exact (h.effect knows made).of_same store names
  | some p =>
    obtain ⟨id, c⟩ := p
    cases called : s.store.call id c with
    | error e => rwa [(step_refused asked called).1]
    | ok q =>
      obtain ⟨on, method, args, named, rfl⟩ := request?_eq_some asked
      obtain ⟨-, made⟩ := request?_call_eq_some.mp asked
      obtain ⟨store, names, -⟩ := step_called asked called
      have operands := List.Subset.trans (Call.references_ofMethod made) knows
      exact h.of_widens (store ▸ (h.store.call operands called).1) names

/-- The operands of every step of a run refer to objects that are there when the step is made. -/
def Knows (s : Session) : List Step → Prop
  | [] => True
  | x :: xs => x.references ⊆ s.store.references ∧ (s.step x).1.Knows xs

theorem Scoped.run (h : s.Scoped) {xs : List Step} (knows : s.Knows xs) : (s.run xs).Scoped := by
  induction xs generalizing s with
  | nil => exact h
  | cons x xs ih => exact ih (h.step knows.1) knows.2

end Session

end SelectBuilder
