import SelectBuilder.Proofs.Store.Mirroring
import SelectBuilder.Proofs.Value.Mapping
import SelectBuilder.Store.Copy

/-!
# Relocated clauses and configurations

A clause that is moved to other references has the same text, and a configuration the same quoted
form, if these references are shown like the old ones.
-/
namespace SelectBuilder

section

variable {f g : Nat → Nat} {r r' : Resolver} {v : Value}

/-- A value that keeps its text when it is moved. -/
structure Value.Moves (f g : Nat → Nat) (r r' : Resolver) (v : Value) : Prop where
  stable : v.Stable
  mirrors : ∀ x ∈ v.references, r.Mirrors f g r' x

theorem faithful_relocate (F : Reference → Reference) : Faithful (Value.relocate F) where
  isNull := Value.isNull_relocate
  isTrue := Value.isTrue_relocate
  content := Value.content?_relocate
  inner := Value.inner_relocate
  text _ := rfl

theorem Value.Moves.toText (h : v.Moves f g r r') :
    v.toText r = (v.relocate (Reference.map f g)).toText r' :=
  v.toText_relocate h.stable h.mirrors

theorem Value.Stable.inner (h : v.Stable) {w : Value} (made : v.inner = .ok w) : w.Stable := by
  have inner := Value.inner_eq_ok.mp made
  unfold Value.inner? at inner
  split at inner <;> cases inner
  case h_4 | h_5 => exact (List.forall_mem_cons.mp h).2
  case h_6 args =>
    cases args with
    | nil => exact List.forall_mem_singleton.mpr rfl
    | cons v rest => exact (List.forall_mem_append.mp (List.forall_mem_cons.mp h).2).1
  all_goals exact List.forall_mem_singleton.mpr rfl

theorem Value.Moves.inner (h : v.Moves f g r r') {w : Value} (made : v.inner = .ok w) :
    w.Moves f g r r' :=
  ⟨h.stable.inner made, fun x hx => h.mirrors x (Value.references_inner made hx)⟩

theorem Value.Moves.carried (h : v.Moves f g r r') :
    v.Carried (Value.relocate (Reference.map f g)) r r' :=
  ⟨h.toText, fun _ made => (h.inner made).toText⟩

theorem Clause.render_relocate {c : Clause} (h : ∀ v ∈ c.values, v.Moves f g r r') :
    c.render r = (c.relocate (Reference.map f g)).render r' := by
  rw [c.relocate_eq_map]
  exact render_map (faithful_relocate _) fun v hv => (h v hv).carried

/-- A clause that is moved is like the old one if nothing in it suffers from that. -/
theorem Clause.like_relocate {c : Clause} {quoted quoted' : Reference → Outcome String}
    (stable : ∀ v ∈ c.values, v.Stable)
    (same : ∀ x ∈ c.references, quoted x = quoted' (x.map f g)) :
    c.Like f quoted quoted' (c.relocate (Reference.map f g)) := by
  intro statement statement' statements
  refine Clause.render_relocate fun v hv => ⟨stable v hv, fun x hx => ?_⟩
  have inside : x ∈ c.references := references_of_mem hv hx
  exact ⟨fun id builder => statements id (builder ▸ inside), same x inside⟩

end

section

variable {F : Reference → Reference}

theorem Config.like_relocate (c : Config) : c.Like F (c.relocate F) := by
  intro name name' same
  have each (p : String × Value) (hp : p ∈ c.fields) :
      p.2.quotedForm name = (p.2.relocate F).quotedForm name' :=
    Value.quotedForm_relocate p.2 fun x hx => same x (List.mem_flatMap.mpr ⟨p, hp, hx⟩)
  simp only [fields, List.forall_mem_cons] at each
  obtain ⟨dialect, pagination, strict, -⟩ := each
  simp only [fields, relocate, List.map_cons, List.map_nil, dialect, pagination, strict]

theorem Config.references_relocate (c : Config) :
    (c.relocate F).references = c.references.map F := by
  simp [references, fields, relocate]

theorem Clause.references_relocate (c : Clause) :
    (c.relocate F).references = c.references.map F := by
  cases c <;>
    simp [references, relocate, Table.references, Table.relocate, Column.relocate,
      SortItem.relocate, List.map_flatMap, List.flatMap_map]

theorem Builder.references_relocate (b : Builder) :
    (Store.relocateBuilder F b).references = b.references.map F := by
  simp [references, Store.relocateBuilder, List.map_flatMap, List.flatMap_map,
    Clause.references_relocate]

end

end SelectBuilder
