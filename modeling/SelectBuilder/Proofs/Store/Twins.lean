import SelectBuilder.Proofs.Builder.Likeness
import SelectBuilder.Proofs.Store.Copying
import SelectBuilder.Store.Operations

/-!
# Twins

A builder and its copy, each of which may have gone on in a store of its own with the same calls:
the clauses from before were moved, later ones are the same. Twins have the same text, and answer
the same calls alike.
-/
namespace SelectBuilder

variable {f g : Nat → Nat} {X : Reference → Prop}

/-- A clause of a copy was moved, or it came later and refers to no builder. -/
inductive Clause.Twin (f g : Nat → Nat) (X : Reference → Prop) : Clause → Clause → Prop
  | moved {c : Clause} (stable : ∀ v ∈ c.values, v.Stable) (inside : ∀ x ∈ c.references, X x) :
      Twin f g X c (c.relocate (Reference.map f g))
  | later {c : Clause} (free : ∀ i, .builder i ∉ c.references) : Twin f g X c c

namespace Clause

variable {c d : Clause}

theorem Twin.extend (h : c.Twin f g X d) (part : String) :
    (c.extend part).Twin f g X (d.extend part) := by
  cases h with
  | moved stable inside =>
    cases c with
    | condition kind head parts => exact .moved stable inside
    | _ => exact .moved stable inside
  | later free =>
    cases c with
    | condition kind head parts => exact .later free
    | _ => exact .later free

theorem Twin.inside (h : c.Twin f g X d) {i : Nat} (hi : .builder i ∈ c.references) :
    X (.builder i) := by
  cases h with
  | moved stable inside => exact inside _ hi
  | later free => exact absurd hi (free i)

theorem Twin.like (h : c.Twin f g X d) {quoted quoted' : Reference → Outcome String}
    (moved : ∀ x, X x → quoted x = quoted' (x.map f g))
    (shared : ∀ k, quoted (.config k) = quoted' (.config k)) : c.Like f quoted quoted' d := by
  cases h with
  | moved stable inside => exact c.like_relocate stable fun x hx => moved x (inside x hx)
  | later free =>
    refine fun statement statement' _ => c.render_congr ⟨fun i hi => absurd hi (free i), ?_⟩
    intro x hx
    cases x with
    | builder i => exact absurd hx (free i)
    | config k => exact shared k

end Clause

/-- Two builders that differ in the places of what their clauses refer to. -/
structure Builder.Twin (f g : Nat → Nat) (X : Reference → Prop) (b d : Builder) : Prop where
  clauses : List.Forall₂ (Clause.Twin f g X) b.clauses d.clauses
  slots : d.slots = b.slots
  cursor : d.cursor = b.cursor
  stage : d.stage = b.stage

namespace Builder

variable {b d : Builder}

theorem twin_relocate (stable : ∀ c ∈ b.clauses, ∀ v ∈ c.values, v.Stable)
    (inside : ∀ x ∈ b.references, X x) :
    b.Twin f g X (Store.relocateBuilder (Reference.map f g) b) where
  clauses := by
    refine List.forall₂_map_right_iff.mpr (List.forall₂_same.mpr fun c hc => ?_)
    exact .moved (stable c hc) fun x hx => inside x (List.mem_flatMap.mpr ⟨c, hc, hx⟩)
  slots := rfl
  cursor := rfl
  stage := rfl

theorem Twin.inside (h : b.Twin f g X d) {i : Nat} (hi : .builder i ∈ b.references) :
    X (.builder i) := by
  obtain ⟨c, hc, hi⟩ := List.mem_flatMap.mp hi
  obtain ⟨k, found⟩ := List.mem_iff_getElem?.mp hc
  rcases forall₂_getElem? h.clauses k with ⟨none, -⟩ | ⟨c', c'', left, -, twin⟩
  · rw [found] at none
    cases none
  · obtain rfl : c = c' := Option.some.inj (found.symm.trans left)
    exact twin.inside hi

/-- Twins make the same change and are twins again. -/
theorem Twin.apply (h : b.Twin f g X d) {change : Change}
    (free : ∀ c, change = .append c → ∀ i, .builder i ∉ c.references) (strict : Bool) :
    (b.apply strict change).Twin f g X (d.apply strict change) := by
  have lengths : d.clauses.length = b.clauses.length := h.clauses.length_eq.symm
  cases change with
  | append c =>
    constructor
    case clauses => exact List.rel_append h.clauses (.cons (.later (free c rfl)) .nil)
    case slots => simp [Builder.apply, enter, settle, h.slots, lengths]
    case cursor => simp [Builder.apply, enter, settle, Builder.append, h.cursor, lengths]
    case stage => simp [Builder.apply, enter, settle, Builder.append, h.stage]
  | extend op part stage =>
    simp only [Builder.apply, enter, settle, Builder.extend, h.cursor]
    split
    · next place cursor =>
      constructor
      case clauses => exact forall₂_modify h.clauses place fun _ _ twin => twin.extend part
      case slots => exact h.slots
      case cursor => rfl
      case stage => rfl
    · exact h

end Builder

/-- The checks of two configurations are the same. -/
structure Config.Checks (c c' : Config) : Prop where
  pagination : c'.checkPagination.isTrue = c.checkPagination.isTrue
  strict : c'.strict.isTrue = c.strict.isTrue

theorem Config.checks_relocate (F : Reference → Reference) (c : Config) :
    c.Checks (c.relocate F) := ⟨c.checkPagination.isTrue_relocate, c.strict.isTrue_relocate⟩

namespace Store

variable {u v : Store} {i : Nat} {b d b' d' : Builder} {c : Call}

/-- Every one of some builders has a twin, and what they refer to is shown alike. -/
structure Twins (f g : Nat → Nat) (X : Reference → Prop) (u v : Store) : Prop where
  injective : ∀ i j, X (.builder i) → X (.builder j) → f i = f j → i = j
  moved : ∀ x, X x → u.quoted x = v.quoted (x.map f g)
  shared : ∀ k, u.quoted (.config k) = v.quoted (.config k)
  builder : ∀ i, X (.builder i) → ∃ b d, u.builders[i]? = some b ∧ v.builders[f i]? = some d ∧
    b.Twin f g X d ∧ (u.configOf b).Checks (v.configOf d)

theorem Twins.render (h : u.Twins f g X v) (hi : X (.builder i)) : u.render i = v.render (f i) := by
  have alike : u.WrittenAlike f (fun i => X (.builder i)) v := by
    refine ⟨h.injective, fun i b hi found => ?_, fun i hi none => ?_⟩
    · obtain ⟨b', d, found', mirrored, twin, -⟩ := h.builder i hi
      obtain rfl : b = b' := Option.some.inj (found.symm.trans found')
      exact ⟨fun j hj => twin.inside hj, d, mirrored,
        twin.clauses.imp fun _ _ t => t.like h.moved h.shared⟩
    · obtain ⟨b, d, found, -⟩ := h.builder i hi
      rw [none] at found
      cases found
  exact u.render_alike alike hi

/-- Twins have like conditions under their cursors. -/
theorem Twins.likeConditions (h : u.Twins f g X v) (hb : b.Twin f g X d) :
    b.LikeConditions u.resolver v.resolver d := by
  unfold Builder.LikeConditions Builder.current?
  rw [hb.cursor]
  cases b.cursor with
  | none => simp only [Option.bind_none, Option.map_none]
  | some place =>
    rcases forall₂_getElem? hb.clauses place with ⟨left, right⟩ | ⟨c, c', left, right, twin⟩
    · simp only [Option.bind_some, left, right, Option.map_none]
    · have like : c.render u.resolver = c'.render v.resolver :=
        twin.like h.moved h.shared u.render v.render fun j hj => h.render (twin.inside hj)
      simp only [Option.bind_some, left, right, Option.map_some, like]

/-- Twins answer a call alike. -/
theorem Twins.plan (h : u.Twins f g X v) (hb : b.Twin f g X d)
    (checks : (u.configOf b).Checks (v.configOf d)) (free : ∀ i, .builder i ∉ c.references) :
    b.plan (u.contextOf b) c = d.plan (v.contextOf d) c := by
  have agree : (u.contextOf b).resolver.Agree (v.contextOf d).resolver c.references := by
    refine ⟨fun i hi => absurd hi (free i), fun x hx => ?_⟩
    cases x with
    | builder i => exact absurd hx (free i)
    | config k => exact h.shared k
  cases operator : c.operator? with
  | none => exact Builder.plan_clause_congr operator hb.slots agree checks.pagination
  | some kind => exact Builder.plan_operator_congr operator hb.stage (h.likeConditions hb) agree

theorem Twins.setBuilder (h : u.Twins f g X v) (hi : X (.builder i))
    (found : u.builders[i]? = some b) (found' : v.builders[f i]? = some d)
    (config : b'.config = b.config) (config' : d'.config = d.config) (twin : b'.Twin f g X d')
    (checks : (u.configOf b).Checks (v.configOf d)) :
    (u.setBuilder i b').Twins f g X (v.setBuilder (f i) d') where
  injective := h.injective
  moved := by
    rw [quoted_setBuilder found config, quoted_setBuilder found' config']
    exact h.moved
  shared := by
    rw [quoted_setBuilder found config, quoted_setBuilder found' config']
    exact h.shared
  builder j hj := by
    by_cases same : i = j
    · subst same
      have inside := (List.getElem?_eq_some_iff.mp found).1
      have inside' := (List.getElem?_eq_some_iff.mp found').1
      refine ⟨b', d', by simp [inside], by simp [inside'], twin, ?_⟩
      simpa [configOf, config, config'] using checks
    · have apart : f i ≠ f j := fun h' => same (h.injective i j hi hj h')
      obtain ⟨b₁, d₁, left, right, twin, checks⟩ := h.builder j hj
      exact ⟨b₁, d₁, by simpa [same] using left, by simpa [apart] using right, twin, checks⟩

/-! ## A builder and its copy -/

/-- Nothing that a builder keeps, by itself or in what it leads to, is shown differently for being
made anew. An error in a setting may read differently, because it is never shown as its text. -/
structure Steady (s : Store) (id : Nat) : Prop where
  clauses : ∀ i b, Relation.ReflTransGen s.Links (.builder id) (.builder i) →
    s.builders[i]? = some b → ∀ c ∈ b.clauses, ∀ v ∈ c.values, v.Stable ∧ v.Reproducible
  settings : ∀ k c, Relation.ReflTransGen s.Links (.builder id) (.config k) →
    s.configs[k]? = some c → ∀ f ∈ c.fields, f.2.Reproducible

/-- A builder and its copy are twins at first. -/
theorem Scoped.copy_twins {s : Store} {id : Nat} (h : s.Scoped)
    (inside : .builder id ∈ s.references) (steady : s.Steady id) :
    (s.copy id).1.Twins (s.builderPlace id) (s.configPlace id) (· ∈ s.reached (.builder id))
      (s.copy id).1 := by
  have moved := h.moved inside
  have keeps : s.Keeps (· ∈ s.reached (.builder id)) (s.copy id).1 :=
    (s.keeps_copy id).mono moved.inside
  constructor
  case injective =>
    exact fun i j hi hj same =>
      Reference.builder.inj (moved.injective _ _ hi hj (congrArg Reference.builder same))
  case moved => exact fun x hx => (keeps.quoted moved.closed hx).trans (moved.quoted hx)
  case shared => exact fun k => rfl
  case builder =>
    intro i hi
    obtain ⟨b, found⟩ := moved.found hi
    have link : ∀ x ∈ s.links (.builder i), x ∈ s.reached (.builder id) :=
      fun x hx => moved.closed _ x hi hx
    rw [links_builder found] at link
    obtain ⟨config, clauses⟩ := List.forall_mem_cons.mp link
    obtain ⟨c, settings⟩ := moved.foundConfig config
    have kept := steady.clauses i b ((h.mem_reached inside).mp hi) found
    refine ⟨b, _, (keeps.builder i hi).trans found, moved.builder i b hi found,
      Builder.twin_relocate (fun c hc v hv => (kept c hc v hv).1) clauses, ?_⟩
    have old : (s.copy id).1.configOf b = c := by
      simp [configOf, List.getD_eq_getElem?_getD, keeps.config _ config, settings]
    have new : (s.copy id).1.configOf
        (relocateBuilder (Reference.map (s.builderPlace id) (s.configPlace id)) b) =
          c.relocate (Reference.map (s.builderPlace id) (s.configPlace id)) := by
      have place : (relocateBuilder (Reference.map (s.builderPlace id) (s.configPlace id))
          b).config = s.configPlace id b.config := rfl
      simp [configOf, place, List.getD_eq_getElem?_getD, moved.config _ c config settings]
    rw [old, new]
    exact c.checks_relocate _

end Store

end SelectBuilder
