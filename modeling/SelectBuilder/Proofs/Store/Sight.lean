import SelectBuilder.Proofs.Store.Exchange
import SelectBuilder.Proofs.Builder.Likeness

/-!
# What can be seen from a builder

What comes of a request to a builder depends on the builder, on its configuration, and on how that
is shown which these and the operands refer to. Another store in which all of this is the same
answers in the same way.
-/
namespace SelectBuilder

/-- Nothing leads to an object by new ways that end in objects which do not lead to it. -/
theorem not_reflTransGen_of_new {α : Type} {R R' : α → α → Prop} {new : α → Prop} {x z : α}
    (step : ∀ x y, R' x y → R x y ∨ new y) (old : ¬Relation.ReflTransGen R x z)
    (apart : ∀ y, new y → ¬Relation.ReflTransGen R y z) : ¬Relation.ReflTransGen R' x z := by
  intro leads
  suffices ∀ y, Relation.ReflTransGen R' x y → ¬Relation.ReflTransGen R y z from
    this z leads .refl
  intro y leads
  induction leads with
  | refl => exact old
  | tail _ last ih =>
    rcases step _ _ last with link | fresh
    · exact fun rest => ih (.head link rest)
    · exact apart _ fresh

namespace Store

variable {s t : Store} {a j k : Nat} {refs : List Reference} {x y : Reference} {b d : Builder}
  {c : Config}

/-- One store looks like another one from a builder and some operands. -/
structure Sees (a : Nat) (refs : List Reference) (s t : Store) : Prop where
  builder : t.builders[a]? = s.builders[a]?
  config : ∀ b, s.builders[a]? = some b → t.configs[b.config]? = s.configs[b.config]?
  operands : s.resolver.Agree t.resolver (.builder a :: refs)
  clauses : ∀ b, s.builders[a]? = some b → s.resolver.Agree t.resolver b.references
  fields : ∀ b, s.builders[a]? = some b → ∀ x ∈ (s.configOf b).references, s.quoted x = t.quoted x

/-- Objects of a store that keeps them and what they refer to are shown as before. -/
theorem Keeps.agree {X : Reference → Prop} (keeps : s.Keeps X t) (closed : s.Closed X)
    (inside : ∀ x ∈ refs, X x) : s.resolver.Agree t.resolver refs :=
  ⟨fun _ hi => (keeps.render closed (inside _ hi)).symm,
    fun x hx => (keeps.quoted closed (inside x hx)).symm⟩

theorem configOf_eq (found : s.configs[b.config]? = some c) : s.configOf b = c := by
  simp [configOf, found]

theorem references_configOf (hx : x ∈ (s.configOf b).references) :
    s.Links (.config b.config) x := by
  cases found : s.configs[b.config]? with
  | none =>
    simp [configOf, found, Config.references, Config.fields] at hx
  | some c =>
    rw [Links, links_config found]
    rwa [configOf_eq found] at hx

theorem Keeps.sees {X : Reference → Prop} (keeps : s.Keeps X t) (closed : s.Closed X)
    (inside : ∀ x ∈ Reference.builder a :: refs, X x) : s.Sees a refs t := by
  have self := inside _ List.mem_cons_self
  have link {b : Builder} (found : s.builders[a]? = some b) :
      ∀ x ∈ Reference.config b.config :: b.references, X x :=
    fun x hx => closed _ x self (by rwa [links_builder found])
  constructor
  case builder => exact keeps.builder a self
  case config => exact fun b found => keeps.config _ (link found _ List.mem_cons_self)
  case operands => exact keeps.agree closed inside
  case clauses =>
    exact fun b found => keeps.agree closed fun x hx => link found x (List.mem_cons_of_mem _ hx)
  case fields =>
    intro b found x hx
    have settings := link found _ List.mem_cons_self
    exact (keeps.quoted closed (closed _ x settings (references_configOf hx))).symm

theorem Sees.refl (s : Store) (a : Nat) (refs : List Reference) : s.Sees a refs s :=
  (Keeps.refl (fun _ => True) s).sees (fun _ _ _ _ => trivial) fun _ _ => trivial

/-- A change to a builder is not seen from where nothing leads to it. -/
theorem sees_setBuilder (found : s.builders[j]? = some b) (config : d.config = b.config)
    (apart : ∀ i, .builder i ∈ Reference.builder a :: refs → ¬s.Reaches i j) :
    s.Sees a refs (s.setBuilder j d) := by
  have quoted : (s.setBuilder j d).quoted = s.quoted := quoted_setBuilder found config
  have text {i : Nat} (free : ¬s.Reaches i j) : (s.setBuilder j d).render i = s.render i :=
    render_of_apart (keeps_setBuilder d (not_not_intro rfl)) (map_config_set found config) free
  have self : ¬s.Reaches a j := apart a List.mem_cons_self
  have other : j ≠ a := by
    rintro rfl
    exact self .refl
  constructor
  case builder => simp [other]
  case config => exact fun _ _ => rfl
  case operands => exact ⟨fun i hi => (text (apart i hi)).symm, fun x _ => congrFun quoted.symm x⟩
  case clauses =>
    intro b found
    refine ⟨fun i hi => (text fun leads => self (.head ⟨b, found, hi⟩ leads)).symm, ?_⟩
    exact fun x _ => congrFun quoted.symm x
  case fields => exact fun _ _ x _ => congrFun quoted.symm x

/-- An assignment is not seen from where nothing leads to the configuration. -/
theorem sees_setConfig (c : Config)
    (apart : ∀ x ∈ Reference.builder a :: refs, ¬s.Leads x (.config k)) :
    s.Sees a refs (s.setConfig k c) := by
  have keeps : s.Keeps (fun x => ¬s.Leads x (.config k)) (s.setConfig k c) :=
    keeps_setConfig c (not_not_intro .refl)
  exact keeps.sees (fun x y free link leads => free (.head link leads)) apart

theorem Scoped.sees_copy (h : s.Scoped) (j : Nat)
    (inside : Reference.builder a :: refs ⊆ s.references) : s.Sees a refs (s.copy j).1 :=
  (s.keeps_copy j).sees h.closed fun _ hx => inside hx

/-! ## Ways in a changed store -/

section

variable (found : s.builders[j]? = some b) (inside : d.references ⊆ b.references ++ refs)

include found inside

/-- A changed builder refers to what it referred to before, and to what was brought in. -/
theorem refers_of_setBuilder {i i' : Nat} (h : (s.setBuilder j d).Refers i i') :
    s.Refers i i' ∨ .builder i' ∈ refs := by
  rw [refers_setBuilder found] at h
  split at h
  · next same =>
    subst same
    exact (List.mem_append.mp (inside h)).imp_left fun old => ⟨b, found, old⟩
  · exact .inl h

theorem links_of_setBuilder (config : d.config = b.config) (h : (s.setBuilder j d).Links x y) :
    s.Links x y ∨ y ∈ refs := by
  cases x with
  | config k => exact .inl h
  | builder i =>
    rcases eq_or_ne j i with rfl | other
    · have within' := (List.getElem?_eq_some_iff.mp found).1
      have at' : (s.setBuilder j d).builders[j]? = some d := by simp [within']
      rw [Links, links_builder at', config] at h
      rw [Links, links_builder found]
      rcases List.mem_cons.mp h with rfl | link
      · exact .inl List.mem_cons_self
      · rcases List.mem_append.mp (inside link) with old | new
        · exact .inl (List.mem_cons_of_mem _ old)
        · exact .inr new
    · exact .inl (by simpa [Links, Store.links, other] using h)

end

theorem links_of_setConfig (inside : c.references ⊆ (s.configOf b).references ++ refs)
    (h : (s.setConfig b.config c).Links x y) : s.Links x y ∨ y ∈ refs := by
  cases x with
  | builder i => exact .inl h
  | config k =>
    rcases eq_or_ne b.config k with rfl | other
    · cases found : s.configs[b.config]? with
      | none =>
        have same : s.configs.set b.config c = s.configs :=
          List.set_eq_of_length_le (List.getElem?_eq_none_iff.mp found)
        exact .inl (by simpa [Links, Store.links, setConfig, same] using h)
      | some old =>
        have within' := (List.getElem?_eq_some_iff.mp found).1
        have at' : (s.setConfig b.config c).configs[b.config]? = some c := by
          simp [setConfig, within']
        rw [Links, links_config at'] at h
        rcases List.mem_append.mp (inside h) with kept | new
        · exact .inl (references_configOf kept)
        · exact .inr new
    · exact .inl (by simpa [Links, Store.links, setConfig, other] using h)

/-! ## The same requests -/

theorem builder_eq_ok : s.builder a = .ok b ↔ s.builders[a]? = some b := by
  unfold Store.builder
  cases s.builders[a]? <;> simp

section

variable (h : s.Sees a refs t)

include h

theorem Sees.configOf (found : s.builders[a]? = some b) : t.configOf b = s.configOf b := by
  simp only [Store.configOf, List.getD_eq_getElem?_getD, h.config b found]

theorem Sees.render : t.render a = s.render a := (h.operands.statement a List.mem_cons_self).symm

theorem Sees.quoted : t.quoted (.builder a) = s.quoted (.builder a) :=
  (h.operands.quoted _ List.mem_cons_self).symm

theorem Sees.plan {call : Call} (found : s.builders[a]? = some b) (known : call.references ⊆ refs) :
    b.plan (t.contextOf b) call = b.plan (s.contextOf b) call := by
  refine (Builder.plan_congr (h.operands.mono fun x hx => List.mem_cons_of_mem _ (known hx))
    (fun condition current => (h.clauses b found).mono ?_) ?_).symm
  · obtain ⟨place, -, at'⟩ := Option.bind_eq_some_iff.mp current
    exact fun x hx => List.mem_flatMap.mpr ⟨condition, List.mem_of_getElem? at', hx⟩
  · simp only [contextOf, h.configOf found]

theorem Sees.findBuilder : t.builder a = s.builder a := by
  unfold Store.builder
  rw [h.builder]

theorem Sees.clauseTexts : t.clauseTexts a = s.clauseTexts a := by
  refine Outcome.bind_congr h.findBuilder fun b known => ?_
  have found := builder_eq_ok.mp (h.findBuilder ▸ known)
  have texts : b.clauses.map (fun c => (c.kindName, c.keyword, c.render t.resolver)) =
      b.clauses.map fun c => (c.kindName, c.keyword, c.render s.resolver) := by
    refine List.map_congr_left fun c hc => ?_
    have agree := (h.clauses b found).mono fun x hx => List.mem_flatMap.mpr ⟨c, hc, hx⟩
    rw [c.render_congr agree]
  exact congrArg pure texts

theorem Sees.build :
    (∃ e, s.build a = .error e ∧ t.build a = .error e) ∨
      ∃ rendered record, s.build a = .ok (rendered, ⟨record, s⟩) ∧
        t.build a = .ok (rendered, ⟨record, t⟩) ∧
        rendered.quotedForm s.quoted = rendered.quotedForm t.quoted := by
  unfold Store.build
  rw [h.findBuilder, h.render]
  cases known : s.builder a with
  | error e => exact .inl ⟨e, rfl, rfl⟩
  | ok b =>
    have found := builder_eq_ok.mp known
    cases s.render a with
    | error e => exact .inl ⟨e, rfl, rfl⟩
    | ok sql =>
      refine .inr ⟨_, _, rfl, ?_, ?_⟩
      · simp only [Outcome.ok_bind, h.configOf found]
        rfl
      · have shown := Value.quotedForm_congr (s.configOf b).dialect fun x hx =>
          h.fields b found x (List.mem_append_left _ hx)
        simp only [Rendered.quotedForm, shown]

theorem Sees.toExpression {α : Type} (read : String → Value → Except ReadError α) :
    t.toExpression a read = s.toExpression a read := by
  refine Outcome.bind_congr h.findBuilder fun b known => ?_
  have found := builder_eq_ok.mp (h.findBuilder ▸ known)
  simp only [h.render, h.configOf found]

end

end Store

end SelectBuilder
