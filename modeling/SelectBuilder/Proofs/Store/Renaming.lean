import SelectBuilder.Proofs.Store.Frame
import SelectBuilder.Proofs.Store.Relocation
import SelectBuilder.Proofs.Value.Renaming

/-!
# Stores under other numbers

Two stores that differ in the numbers of their objects alone. What is shown of an object does not
depend on its number.
-/
namespace SelectBuilder

variable {f g : Nat → Nat}

def Clause.rename (F : Reference → Reference) (c : Clause) : Clause := c.map (Value.rename F)

def Config.rename (F : Reference → Reference) (c : Config) : Config :=
  ⟨c.dialect.rename F, c.checkPagination.rename F, c.strict.rename F⟩

def Builder.rename (f g : Nat → Nat) (b : Builder) : Builder :=
  { b with
    config := g b.config
    clauses := b.clauses.map (Clause.rename (Reference.map f g)) }

/-! ## Renaming and moving -/

theorem Clause.rename_relocate {F G H : Reference → Reference} {c : Clause}
    (same : ∀ x ∈ c.references, H (F x) = G x) : (c.relocate F).rename H = c.relocate G := by
  rw [rename, relocate_eq_map, relocate_eq_map, map_map]
  refine map_congr fun v hv => ?_
  rw [Value.rename_relocate]
  exact Value.relocate_congr v fun x hx => same x (references_of_mem hv hx)

theorem Clause.rename_eq_self {F : Reference → Reference} {c : Clause}
    (fixed : ∀ x ∈ c.references, F x = x) : c.rename F = c := by
  have each : ∀ v ∈ c.values, v.rename F = id v := fun v hv =>
    Value.rename_eq_self v fun x hx => fixed x (references_of_mem hv hx)
  rw [rename, map_congr each, map_id]

theorem Config.rename_relocate {F G H : Reference → Reference} {c : Config}
    (same : ∀ x ∈ c.references, H (F x) = G x) : (c.relocate F).rename H = c.relocate G := by
  simp only [references, fields, List.flatMap_cons, List.flatMap_nil, List.append_nil,
    List.forall_mem_append] at same
  simp only [rename, relocate, Value.rename_relocate, Value.relocate_congr _ same.1,
    Value.relocate_congr _ same.2.1, Value.relocate_congr _ same.2.2]

theorem Config.rename_eq_self {F : Reference → Reference} {c : Config}
    (fixed : ∀ x ∈ c.references, F x = x) : c.rename F = c := by
  simp only [references, fields, List.flatMap_cons, List.flatMap_nil, List.append_nil,
    List.forall_mem_append] at fixed
  simp only [rename, Value.rename_eq_self _ fixed.1, Value.rename_eq_self _ fixed.2.1,
    Value.rename_eq_self _ fixed.2.2]

theorem Builder.rename_relocate {f₁ g₁ f₂ g₂ : Nat → Nat} {b : Builder}
    (same : ∀ x ∈ Reference.config b.config :: b.references,
      (x.map f₁ g₁).map f g = x.map f₂ g₂) :
    (Store.relocateBuilder (Reference.map f₁ g₁) b).rename f g =
      Store.relocateBuilder (Reference.map f₂ g₂) b := by
  obtain ⟨config, clauses⟩ := List.forall_mem_cons.mp same
  have each : ∀ c ∈ b.clauses, (c.relocate (Reference.map f₁ g₁)).rename (Reference.map f g) =
      c.relocate (Reference.map f₂ g₂) := fun c hc =>
    Clause.rename_relocate fun x hx => clauses x (List.mem_flatMap.mpr ⟨c, hc, hx⟩)
  have settings : g (g₁ b.config) = g₂ b.config := by simpa [Reference.map] using config
  simp only [Store.relocateBuilder, rename, List.map_map, Reference.map, Reference.config?,
    Option.getD_some, settings]
  exact congrArg (Builder.mk _ · _ _ _ _) (List.map_congr_left each)

theorem Builder.rename_eq_self {b : Builder}
    (fixed : ∀ x ∈ Reference.config b.config :: b.references, x.map f g = x) :
    b.rename f g = b := by
  obtain ⟨config, clauses⟩ := List.forall_mem_cons.mp fixed
  have each : ∀ c ∈ b.clauses, c.rename (Reference.map f g) = id c := fun c hc =>
    Clause.rename_eq_self fun x hx => clauses x (List.mem_flatMap.mpr ⟨c, hc, hx⟩)
  have settings : g b.config = b.config := by simpa [Reference.map] using config
  rw [rename, settings, List.map_congr_left each, List.map_id]

/-! ## What is shown of a renamed object -/

/-- A renamed clause is like the old one, whatever is inside. -/
theorem Clause.like_rename {c : Clause} {quoted quoted' : Reference → Outcome String}
    (same : ∀ x ∈ c.references, quoted x = quoted' (x.map f g)) :
    c.Like f quoted quoted' (c.rename (Reference.map f g)) := by
  intro statement statement' statements
  refine c.render_map (Value.faithful_rename _) fun v hv => ?_
  have mirrors (x : Reference) (hx : x ∈ v.references) :
      Resolver.Mirrors f g ⟨statement, quoted⟩ ⟨statement', quoted'⟩ x := by
    have inside : x ∈ c.references := references_of_mem hv hx
    exact ⟨fun id builder => statements id (builder ▸ inside), same x inside⟩
  exact ⟨v.toText_rename mirrors, fun w made =>
    w.toText_rename fun x hx => mirrors x (Value.references_inner made hx)⟩

theorem Config.like_rename {F : Reference → Reference} (c : Config) : c.Like F (c.rename F) := by
  intro name name' same
  have each (p : String × Value) (hp : p ∈ c.fields) :
      p.2.quotedForm name = (p.2.rename F).quotedForm name' :=
    Value.quotedForm_rename p.2 fun x hx => same x (List.mem_flatMap.mpr ⟨p, hp, hx⟩)
  simp only [fields, List.forall_mem_cons] at each
  obtain ⟨dialect, pagination, strict, -⟩ := each
  simp only [fields, rename, List.map_cons, List.map_nil, dialect, pagination, strict]

namespace Store

variable {s t : Store}

/-- The objects of one store are those of the other one, but for their numbers. -/
structure Renamed (f g : Nat → Nat) (s t : Store) : Prop where
  builders : ∀ i, t.builders[f i]? = s.builders[i]?.map (Builder.rename f g)
  configs : ∀ k, t.configs[g k]? = s.configs[k]?.map (Config.rename (Reference.map f g))

theorem Renamed.refl (s : Store) : s.Renamed id id s where
  builders i := by
    rw [id]
    cases s.builders[i]? with
    | none => rfl
    | some b => exact congrArg some (b.rename_eq_self fun x _ => x.map_id).symm
  configs k := by
    rw [id]
    cases s.configs[k]? with
    | none => rfl
    | some c => exact congrArg some (c.rename_eq_self fun x _ => x.map_id).symm

/-- Renamed builders have as many clauses. -/
theorem Renamed.length_clauses (h : s.Renamed f g t) (i : Nat) :
    (t.builders.map fun b => b.clauses.length)[f i]? =
      (s.builders.map fun b => b.clauses.length)[i]? := by
  rw [List.getElem?_map, List.getElem?_map, h.builders, Option.map_map]
  exact congrFun (congrArg Option.map (funext fun b => List.length_map _)) s.builders[i]?

section

variable (h : s.Renamed f g t) (hf : Function.Injective f) (hg : Function.Injective g)

include h hf hg

theorem Renamed.quoted (x : Reference) : s.quoted x = t.quoted (x.map f g) := by
  refine s.quoted_alike (X := fun _ => True) ⟨fun x y _ _ same => ?_, fun i b _ found => ?_,
    fun k c _ found => ?_, fun i _ none => ?_, fun k _ none => ?_⟩ trivial
  · cases x <;> cases y <;> simp only [Reference.map, reduceCtorEq, Reference.builder.injEq,
      Reference.config.injEq] at same ⊢
    · exact hf same
    · exact hg same
  · exact ⟨trivial, _, by rw [h.builders, found]; rfl, rfl⟩
  · exact ⟨fun _ _ => trivial, _, by rw [h.configs, found]; rfl, c.like_rename⟩
  · rw [h.builders, none]
    rfl
  · rw [h.configs, none]
    rfl

theorem Renamed.render (i : Nat) : s.render i = t.render (f i) := by
  refine s.render_alike (X := fun _ => True) ⟨fun i j _ _ same => hf same, fun i b _ found => ?_,
    fun i _ none => ?_⟩ trivial
  · refine ⟨fun _ _ => trivial, _, by rw [h.builders, found]; rfl, ?_⟩
    exact List.forall₂_map_right_iff.mpr (List.forall₂_same.mpr fun c _ =>
      Clause.like_rename fun x _ => h.quoted hf hg x)
  · rw [h.builders, none]
    rfl

end

end Store

end SelectBuilder
