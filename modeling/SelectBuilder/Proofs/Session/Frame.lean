import SelectBuilder.Proofs.Session.Run
import SelectBuilder.Proofs.Store.Frame

/-!
# What a step leaves alone

A call on a builder and an assignment to a configuration change one object, and leave all others as
they are; so do runs of them.
-/
namespace SelectBuilder

namespace Session

variable {s : Session} {x : Step} {X : Reference → Prop}

/-- A step that binds no name when it succeeds does so in no case. -/
theorem names_step (kept : ∀ done result report, s.effect x = .ok (done, result, report) →
    done.names = s.names) : (s.step x).1.names = s.names := by
  unfold step stepWith
  split
  · cases x <;> rfl
  · next done result made => exact kept done result none made
  · next done result report made =>
    dsimp only
    split
    · rfl
    · exact kept done result (some report) made

/-- What becomes of the store in a call on a builder. -/
theorem step_on_builder {on method : String} {args : List Value} {named : List (String × Value)}
    {id : Nat} (found : s.names.lookup on = some (.builder id)) :
    (s.step (.call on method args named)).1.names = s.names ∧
      ((s.step (.call on method args named)).1.store = s.store ∨
        ∃ b d, s.store.builders[id]? = some b ∧ d.config = b.config ∧
          (s.step (.call on method args named)).1.store = s.store.setBuilder id d) := by
  cases asked : s.request? (.call on method args named) with
  | some p =>
    obtain ⟨id', c⟩ := p
    obtain ⟨found', -⟩ := request?_call_eq_some.mp asked
    rw [found] at found'
    cases found'
    cases called : s.store.call id c with
    | error e =>
      rw [(step_refused asked called).1]
      exact ⟨rfl, .inl rfl⟩
    | ok q =>
      obtain ⟨b, change, inside, -, made, -⟩ := Store.call_eq_ok.mp called
      obtain ⟨store, names, -⟩ := step_called asked called
      exact ⟨names, .inr ⟨b, _, inside, Builder.config_apply .., store.trans made.symm⟩⟩
  | none =>
    refine ⟨names_step fun done result report made => ?_, .inl ?_⟩
    · rw [(runCall_builder found asked made).1]
    · rcases s.step_cases _ asked with ⟨same, -⟩ | ⟨done, result, report, made, store, -⟩
      · exact same
      · rw [store, (runCall_builder found asked made).1]

/-- What becomes of the store in an assignment. -/
theorem step_assign {on field : String} {value : Value} {id : Nat}
    (found : s.findConfig on = .ok id) :
    (s.step (.assign on field value)).1.names = s.names ∧
      (s.step (.assign on field value)).1.store =
        s.store.setConfig id ((s.store.configs.getD id {}).assign field value) := by
  have made : s.effect (.assign on field value) =
      .ok (quiet
        { s with store := s.store.setConfig id ((s.store.configs.getD id {}).assign field value) }
        (.settings ((s.store.configs.getD id {}).assign field value).fields)) := by
    simp only [effect, runAssign, found, Outcome.ok_bind]
    rfl
  simp [step, stepWith, made, quiet]

/-- A step is a call on one of some builders, or an assignment to one of some configurations. -/
def Acts (s : Session) (X : Reference → Prop) : Step → Prop
  | .call on _ _ _ => ∃ id, s.names.lookup on = some (.builder id) ∧ X (.builder id)
  | .assign on _ _ => ∃ id, s.findConfig on = .ok id ∧ X (.config id)
  | _ => False

/-- The names mean the same, and every builder has the configuration that it had. -/
structure Alike (s t : Session) : Prop where
  names : t.names = s.names
  settings : t.store.builders.map Builder.config = s.store.builders.map Builder.config

theorem Alike.refl (s : Session) : s.Alike s := ⟨rfl, rfl⟩

theorem Alike.trans {t u : Session} (h : s.Alike t) (h' : t.Alike u) : s.Alike u :=
  ⟨h'.names.trans h.names, h'.settings.trans h.settings⟩

theorem Alike.findConfig {t : Session} (h : s.Alike t) (on : String) :
    t.findConfig on = s.findConfig on := by
  unfold Session.findConfig find
  rw [h.names]
  cases s.names.lookup on with
  | none => rfl
  | some handle =>
    cases handle with
    | builder id =>
      have same : t.store.builders[id]?.map Builder.config =
          s.store.builders[id]?.map Builder.config := by
        simpa using congrArg (·[id]?) h.settings
      simp only [Outcome.ok_bind, Store.builder]
      cases hs : s.store.builders[id]? <;> cases ht : t.store.builders[id]? <;> simp_all
    | _ => rfl

theorem Alike.acts {t : Session} (h : s.Alike t) (acts : s.Acts X x) : t.Acts X x := by
  cases x with
  | call on method args named => simpa only [Acts, h.names] using acts
  | assign on field value => simpa only [Acts, h.findConfig] using acts
  | _ => exact acts

/-- A step on some objects leaves the others. -/
theorem acts_step (acts : s.Acts X x) :
    s.Alike (s.step x).1 ∧ s.store.Keeps (fun y => ¬X y) (s.step x).1.store := by
  cases x with
  | call on method args named =>
    obtain ⟨id, found, inside⟩ := acts
    obtain ⟨names, same | ⟨b, d, builder, config, store⟩⟩ :=
      step_on_builder found
    · exact ⟨⟨names, by rw [same]⟩, same ▸ .refl _ _⟩
    · exact ⟨⟨names, store ▸ Store.map_config_set builder config⟩,
        store ▸ Store.keeps_setBuilder d fun other => other inside⟩
  | assign on field value =>
    obtain ⟨id, found, inside⟩ := acts
    obtain ⟨names, store⟩ := step_assign found
    exact ⟨⟨names, by rw [store, Store.builders_setConfig]⟩,
      store ▸ Store.keeps_setConfig _ fun other => other inside⟩
  | _ => exact acts.elim

theorem acts_run {xs : List Step} (acts : ∀ x ∈ xs, s.Acts X x) :
    s.Alike (s.run xs) ∧ s.store.Keeps (fun y => ¬X y) (s.run xs).store := by
  induction xs generalizing s with
  | nil => exact ⟨.refl s, .refl _ _⟩
  | cons x xs ih =>
    obtain ⟨first, later⟩ := List.forall_mem_cons.mp acts
    obtain ⟨alike, keeps⟩ := acts_step first
    obtain ⟨alike', keeps'⟩ := ih fun y hy => alike.acts (later y hy)
    exact ⟨alike.trans alike', keeps.trans keeps'⟩

end Session

end SelectBuilder
