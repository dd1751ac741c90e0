import Mathlib.Data.List.Perm.Subperm
import Mathlib.Logic.Relation
import SelectBuilder.Proofs.Store.Scope

/-!
# What an object reaches

The objects that a deep copy takes along are the ones to which references lead. They are found
within as many rounds as there are objects: every round but the last finds one more.
-/
namespace SelectBuilder

namespace Store

variable {s t : Store} {start : List Reference} {r x y : Reference}

/-- References lead from one object to another one. -/
abbrev Leads (s : Store) : Reference → Reference → Prop := Relation.ReflTransGen s.Links

theorem Reaches.leads {i j : Nat} (h : s.Reaches i j) : s.Leads (.builder i) (.builder j) := by
  induction h with
  | refl => exact .refl
  | tail _ last ih =>
    obtain ⟨b, found, inside⟩ := last
    refine ih.tail ?_
    rw [Links, links_builder found]
    exact List.mem_cons_of_mem _ inside

theorem length_references (s : Store) :
    s.references.length = s.builders.length + s.configs.length := by
  simp [references]

/-! ## Rounds -/

theorem mem_within_succ {n : Nat} :
    y ∈ s.within start (n + 1) ↔
      y ∈ s.within start n ∨ ∃ x ∈ s.within start n, s.Links x y := by
  simp [within, Links, List.mem_eraseDups]

theorem nodup_within (nodup : start.Nodup) (n : Nat) : (s.within start n).Nodup := by
  cases n with
  | zero => exact nodup
  | succ n => exact nodup_eraseDups _

theorem Scoped.within (h : s.Scoped) (inside : start ⊆ s.references) (n : Nat) :
    s.within start n ⊆ s.references := by
  induction n with
  | zero => exact inside
  | succ n ih =>
    intro y hy
    rcases mem_within_succ.mp hy with old | ⟨x, -, link⟩
    · exact ih old
    · exact h.links link

/-- After some rounds either nothing is left to be found, or every round has found something. -/
theorem within_grows (nodup : start.Nodup) (some : start ≠ []) (n : Nat) :
    s.Closed (· ∈ s.within start n) ∨ n < (s.within start n).length := by
  induction n with
  | zero => exact .inr (List.length_pos_of_ne_nil some)
  | succ n ih =>
    by_cases closed : s.Closed (· ∈ s.within start n)
    · -- A round that finds nothing is followed by such rounds only.
      refine .inl fun x y hx link => mem_within_succ.mpr (.inl (closed x y ?_ link))
      rcases mem_within_succ.mp hx with old | ⟨z, hz, link⟩
      · exact old
      · exact closed z x hz link
    · obtain ⟨x, y, hx, link, missing⟩ :
          ∃ x y, x ∈ s.within start n ∧ s.Links x y ∧ y ∉ s.within start n := by
        simpa [Closed, Links] using closed
      have larger : y :: s.within start n ⊆ s.within start (n + 1) :=
        List.cons_subset.mpr ⟨mem_within_succ.mpr (.inr ⟨x, hx, link⟩),
          fun z hz => mem_within_succ.mpr (.inl hz)⟩
      have nodup' := List.nodup_cons.mpr ⟨missing, nodup_within (s := s) nodup n⟩
      have lengths := (List.subperm_of_subset nodup' larger).length_le
      have before := ih.resolve_left closed
      rw [List.length_cons] at lengths
      exact .inr (by omega)

/-- Nothing that is reached refers to what is not. -/
theorem Scoped.reached (h : s.Scoped) (inside : r ∈ s.references) :
    s.Closed (· ∈ s.reached r) := by
  have sub := h.within (List.cons_subset.mpr ⟨inside, List.nil_subset _⟩)
    (s.builders.length + s.configs.length)
  have bound := (List.subperm_of_subset (nodup_within (List.nodup_singleton r) _) sub).length_le
  rw [length_references] at bound
  refine (within_grows (List.nodup_singleton r) (List.cons_ne_nil r []) _).resolve_right ?_
  exact Nat.not_lt.mpr bound

theorem leads_of_mem_within {n : Nat} (h : x ∈ s.within [r] n) : s.Leads r x := by
  induction n generalizing x with
  | zero =>
    obtain rfl := List.mem_singleton.mp h
    exact .refl
  | succ n ih =>
    rcases mem_within_succ.mp h with old | ⟨y, hy, link⟩
    · exact ih old
    · exact (ih hy).tail link

theorem mem_within_self (s : Store) (r : Reference) (n : Nat) : r ∈ s.within [r] n := by
  induction n with
  | zero => exact List.mem_singleton_self r
  | succ n ih => exact mem_within_succ.mpr (.inl ih)

theorem Closed.leads {X : Reference → Prop} (closed : s.Closed X) (hx : X x)
    (leads : s.Leads x y) : X y := by
  induction leads with
  | refl => exact hx
  | tail _ link ih => exact closed _ _ ih link

/-- The objects reached from an object are those to which references lead from there. -/
theorem Scoped.mem_reached (h : s.Scoped) (inside : r ∈ s.references) :
    x ∈ s.reached r ↔ s.Leads r x :=
  ⟨leads_of_mem_within, (h.reached inside).leads (s.mem_within_self r _)⟩

theorem Scoped.not_leads (h : s.Scoped) (inside : r ∈ s.references) (missing : x ∉ s.reached r) :
    ¬s.Leads r x := fun leads => missing ((h.mem_reached inside).mpr leads)

theorem Scoped.leads_inside (h : s.Scoped) (inside : x ∈ s.references) (leads : s.Leads x y) :
    y ∈ s.references := h.closed.leads inside leads

/-! ## Stores that keep what is reached -/

theorem within_of_keeps (keeps : s.Keeps (s.Leads r) t) (n : Nat) :
    t.within [r] n = s.within [r] n := by
  induction n with
  | zero => rfl
  | succ n ih =>
    have links : (s.within [r] n).flatMap t.links = (s.within [r] n).flatMap s.links :=
      List.flatMap_congr fun x hx => keeps.links (leads_of_mem_within hx)
    simp only [within, ih, links]

/-- Once everything is found, further rounds find nothing. -/
theorem within_of_closed {n m : Nat} (closed : s.Closed (· ∈ s.within [r] n)) :
    s.within [r] (n + m) = s.within [r] n := by
  induction m with
  | zero => rfl
  | succ m ih =>
    rw [← Nat.add_assoc, within, ih]
    refine eraseDups_append_of_subset (nodup_within (List.nodup_singleton r) n) fun y hy => ?_
    obtain ⟨x, hx, link⟩ := List.mem_flatMap.mp hy
    exact closed x y hx link

/-- In a larger store that keeps what an object leads to, the object reaches the same. -/
theorem Scoped.reached_of_keeps (h : s.Scoped) (inside : r ∈ s.references)
    (keeps : s.Keeps (s.Leads r) t) (larger : s.references.length ≤ t.references.length) :
    t.reached r = s.reached r := by
  rw [length_references, length_references] at larger
  obtain ⟨m, sizes⟩ := Nat.exists_eq_add_of_le larger
  rw [Store.reached, within_of_keeps keeps, sizes]
  exact within_of_closed (h.reached inside)

end Store

end SelectBuilder
