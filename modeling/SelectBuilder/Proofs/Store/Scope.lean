import SelectBuilder.Proofs.Builder.Loosening
import SelectBuilder.Proofs.Outcome
import SelectBuilder.Proofs.Store.Frame
import SelectBuilder.Store.Factory

/-!
# Stores without dangling references

All that the objects of a store refer to is in the store. This goes on being so when objects are
added or changed, provided that what comes into them is in the store as well.
-/
namespace SelectBuilder

open Outcome

namespace Store

variable {s t u : Store} {x y : Reference} {b d : Builder} {c : Config} {id : Nat}

/-- One object refers to another one. -/
def Links (s : Store) (x y : Reference) : Prop := y ∈ s.links x

/-- All that a store refers to is in it. -/
structure Scoped (s : Store) : Prop where
  settings : ∀ b ∈ s.builders, b.config < s.configs.length
  clauses : ∀ b ∈ s.builders, b.references ⊆ s.references
  fields : ∀ c ∈ s.configs, c.references ⊆ s.references

theorem Scoped.links (h : s.Scoped) : s.Links x y → y ∈ s.references := by
  intro hy
  cases x with
  | builder i =>
    cases found : s.builders[i]? with
    | none => simp [Links, Store.links, found] at hy
    | some b =>
      rw [Links, links_builder found] at hy
      have among := List.mem_of_getElem? found
      rcases List.mem_cons.mp hy with rfl | inside
      · exact config_mem_references.mpr (h.settings b among)
      · exact h.clauses b among inside
  | config k =>
    cases found : s.configs[k]? with
    | none => simp [Links, Store.links, found] at hy
    | some c =>
      rw [Links, links_config found] at hy
      exact h.fields c (List.mem_of_getElem? found) hy

theorem scoped_iff_links : s.Scoped ↔ ∀ x y, s.Links x y → y ∈ s.references := by
  refine ⟨fun h x y link => h.links link, fun h => ⟨fun b hb => ?_, fun b hb x hx => ?_,
    fun c hc x hx => ?_⟩⟩
  · obtain ⟨i, found⟩ := List.mem_iff_getElem?.mp hb
    exact config_mem_references.mp (h (.builder i) _ (by simp [Links, links_builder found]))
  · obtain ⟨i, found⟩ := List.mem_iff_getElem?.mp hb
    exact h (.builder i) x (by simp [Links, links_builder found, hx])
  · obtain ⟨k, found⟩ := List.mem_iff_getElem?.mp hc
    exact h (.config k) x (by rwa [Links, links_config found])

theorem Scoped.closed (h : s.Scoped) : s.Closed (· ∈ s.references) := fun _ _ _ => h.links

/-- A later state of a store: nothing is lost, and nothing dangles. -/
structure Widens (s t : Store) : Prop where
  scope : t.Scoped
  inside : s.references ⊆ t.references

theorem Widens.refl (h : s.Scoped) : s.Widens s := ⟨h, List.Subset.refl _⟩

theorem Widens.trans (h : s.Widens t) (h' : t.Widens u) : s.Widens u :=
  ⟨h'.scope, List.Subset.trans h.inside h'.inside⟩

theorem references_subset (builders : s.builders.length ≤ t.builders.length)
    (configs : s.configs.length ≤ t.configs.length) : s.references ⊆ t.references := by
  intro x hx
  cases x with
  | builder i =>
    exact builder_mem_references.mpr (Nat.lt_of_lt_of_le (builder_mem_references.mp hx) builders)
  | config k =>
    exact config_mem_references.mpr (Nat.lt_of_lt_of_le (config_mem_references.mp hx) configs)

/-- The tables may grow and change if what is new in them has been in the store before. -/
theorem Scoped.widens (h : s.Scoped) (builders : s.builders.length ≤ t.builders.length)
    (configs : s.configs.length ≤ t.configs.length)
    (newBuilders : ∀ d ∈ t.builders, d ∈ s.builders ∨
      d.config < s.configs.length ∧ d.references ⊆ s.references)
    (newConfigs : ∀ c ∈ t.configs, c ∈ s.configs ∨ c.references ⊆ s.references) : s.Widens t := by
  have inside := references_subset builders configs
  refine ⟨⟨fun d hd => ?_, fun d hd => ?_, fun c hc => ?_⟩, inside⟩
  · rcases newBuilders d hd with old | new
    · exact Nat.lt_of_lt_of_le (h.settings d old) configs
    · exact Nat.lt_of_lt_of_le new.1 configs
  · rcases newBuilders d hd with old | new
    · exact List.Subset.trans (h.clauses d old) inside
    · exact List.Subset.trans new.2 inside
  · rcases newConfigs c hc with old | new
    · exact List.Subset.trans (h.fields c old) inside
    · exact List.Subset.trans new inside

theorem Scoped.addConfig (h : s.Scoped) (fields : c.references ⊆ s.references) :
    s.Widens (s.addConfig c).1 ∧ (s.addConfig c).2 < (s.addConfig c).1.configs.length := by
  refine ⟨h.widens (Nat.le_refl _) (by simp [Store.addConfig]) (fun d hd => .inl hd)
    fun d hd => ?_, by simp [Store.addConfig]⟩
  rcases List.mem_append.mp hd with old | new
  · exact .inl old
  · obtain rfl := List.mem_singleton.mp new
    exact .inr fields

theorem Scoped.addBuilder (h : s.Scoped) (config : b.config < s.configs.length)
    (clauses : b.references ⊆ s.references) :
    s.Widens (s.addBuilder b).1 ∧ (s.addBuilder b).2 < (s.addBuilder b).1.builders.length := by
  refine ⟨h.widens (by simp [Store.addBuilder]) (Nat.le_refl _) (fun d hd => ?_)
    fun d hd => .inl hd, by simp [Store.addBuilder]⟩
  rcases List.mem_append.mp hd with old | new
  · exact .inl old
  · obtain rfl := List.mem_singleton.mp new
    exact .inr ⟨config, clauses⟩

theorem Scoped.setConfig (h : s.Scoped) (fields : c.references ⊆ s.references) :
    s.Widens (s.setConfig id c) := by
  refine h.widens (Nat.le_refl _) (by simp [Store.setConfig]) (fun d hd => .inl hd)
    fun d hd => ?_
  rcases List.mem_or_eq_of_mem_set hd with old | rfl
  · exact .inl old
  · exact .inr fields

theorem Scoped.setBuilder (h : s.Scoped) (config : b.config < s.configs.length)
    (clauses : b.references ⊆ s.references) : s.Widens (s.setBuilder id b) := by
  refine h.widens (by simp) (Nat.le_refl _) (fun d hd => ?_) fun d hd => .inl hd
  rcases List.mem_or_eq_of_mem_set hd with old | rfl
  · exact .inl old
  · exact .inr ⟨config, clauses⟩

/-- The fields of a configuration that is looked up refer to nothing that is not there. -/
theorem Scoped.configs (h : s.Scoped) (k : Nat) :
    (s.configs.getD k {}).references ⊆ s.references := by
  rw [List.getD_eq_getElem?_getD]
  cases found : s.configs[k]? with
  | none => exact List.nil_subset _
  | some c => exact h.fields c (List.mem_of_getElem? found)

theorem Scoped.replaceDialect (h : s.Scoped) {dialect : Value}
    (inside : dialect.references ⊆ s.references) (k : Nat) :
    s.Widens (s.replaceDialect k dialect).1 ∧
      (s.replaceDialect k dialect).2 < (s.replaceDialect k dialect).1.configs.length := by
  refine h.addConfig ?_
  have fields := h.configs k
  split
  · exact fields
  · simp only [Config.references, Config.fields, List.flatMap_cons, List.append_subset] at fields ⊢
    exact ⟨inside, fields.2⟩

theorem Scoped.makeFactory (h : s.Scoped) {config : Option Nat} {dialect : Value}
    (known : ∀ k ∈ config, k < s.configs.length) (inside : dialect.references ⊆ s.references) :
    s.Widens (s.makeFactory config dialect).1 ∧
      (s.makeFactory config dialect).2 < (s.makeFactory config dialect).1.configs.length := by
  -- The configuration that is given, or a new one, may get another dialect.
  have given {t : Store} {k : Nat} (widens : s.Widens t) (last : k < t.configs.length) :
      s.Widens (if dialect.isNull then (t, k) else t.replaceDialect k dialect).1 ∧
        (if dialect.isNull then (t, k) else t.replaceDialect k dialect).2 <
          (if dialect.isNull then (t, k) else t.replaceDialect k dialect).1.configs.length := by
    split
    · exact ⟨widens, last⟩
    · obtain ⟨wider, last⟩ :=
        widens.scope.replaceDialect (List.Subset.trans inside widens.inside) k
      exact ⟨widens.trans wider, last⟩
  cases config with
  | some k => exact given (.refl h) (known k rfl)
  | none =>
    obtain ⟨widens, last⟩ := h.addConfig (c := {}) (List.nil_subset _)
    exact given widens last

/-- A call brings in what its operands refer to. -/
theorem Scoped.apply (h : s.Scoped) {ctx : Context} {call : Call} {change : Change}
    (found : s.builders[id]? = some b) (planned : b.plan ctx call = .ok change)
    (inside : call.references ⊆ s.references) (strict : Bool) :
    s.Widens (s.setBuilder id (b.apply strict change)) := by
  have among := List.mem_of_getElem? found
  refine h.setBuilder ?_ ?_
  · rw [Builder.config_apply]
    exact h.settings b among
  · exact List.Subset.trans (Builder.references_apply planned strict)
      (List.append_subset.mpr ⟨h.clauses b among, inside⟩)

end Store

end SelectBuilder
