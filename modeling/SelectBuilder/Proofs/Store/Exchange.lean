import Mathlib.Algebra.Group.End
import SelectBuilder.Proofs.Store.Copying
import SelectBuilder.Proofs.Store.Renaming

/-!
# Copies in another order

A copy depends on what the builder leads to and on the size of the store alone. So it does not
matter whether other objects change before it or after it, and two copies that are made in the other
order differ in the numbers of the new objects only.
-/
namespace SelectBuilder

/-! ## Blocks that change places -/

/-- Exchanges two blocks of so many numbers, one after the other, that begin at a number. -/
def exchange (n p q : Nat) : Equiv.Perm Nat where
  toFun i := if i < n then i else if i < n + p then i + q else if i < n + p + q then i - p else i
  invFun i := if i < n then i else if i < n + q then i + p else if i < n + q + p then i - q else i
  left_inv i := by
    dsimp only
    split_ifs <;> omega
  right_inv i := by
    dsimp only
    split_ifs <;> omega

section

variable {n p q i : Nat} {moved : List Nat}

theorem exchange_of_lt (h : i < n) : exchange n p q i = i := by
  simp [exchange, h]

theorem getElem?_exchange {α : Type} (old first second : List α) (i : Nat) :
    (old ++ second ++ first)[exchange old.length first.length second.length i]? =
      (old ++ first ++ second)[i]? := by
  simp only [exchange, Equiv.coe_fn_mk, List.getElem?_append, List.length_append]
  split_ifs <;>
    first
    | rfl
    | omega
    | (congr 1; omega)
    | (rw [List.getElem?_eq_none, List.getElem?_eq_none] <;> omega)

/-- The first block comes to lie after the second one. -/
theorem exchange_first (hi : i ∈ moved) :
    exchange n moved.length q (place n moved i) = place (n + q) moved i := by
  obtain ⟨k, at', found⟩ := place_of_mem hi
  have inside := (List.getElem?_eq_some_iff.mp found).1
  rw [at', at', exchange, Equiv.coe_fn_mk, if_neg (by omega), if_pos (by omega)]
  omega

theorem exchange_second (hi : i ∈ moved) :
    exchange n p moved.length (place (n + p) moved i) = place n moved i := by
  obtain ⟨k, at', found⟩ := place_of_mem hi
  have inside := (List.getElem?_eq_some_iff.mp found).1
  rw [at', at', exchange, Equiv.coe_fn_mk, if_neg (by omega), if_neg (by omega),
    if_pos (by omega)]
  omega

end

namespace Store

variable {s t : Store} {id j k : Nat}

/-- The objects of two stores, those of the second one after those of the first one. -/
def append (s t : Store) : Store := ⟨s.builders ++ t.builders, s.configs ++ t.configs⟩

def rename (f g : Nat → Nat) (s : Store) : Store :=
  ⟨s.builders.map (Builder.rename f g), s.configs.map (Config.rename (Reference.map f g))⟩

/-- Objects that are added in two blocks may be added in the other order, but for their numbers. -/
theorem renamed_append {p q p' q' : Store} {f g : Nat → Nat}
    (hf : f = exchange s.builders.length p.builders.length q.builders.length)
    (hg : g = exchange s.configs.length p.configs.length q.configs.length)
    (fixed : s.rename f g = s) (first : p.rename f g = p') (second : q.rename f g = q') :
    ((s.append p).append q).Renamed f g ((s.append q').append p') := by
  subst first second
  have builders : s.builders.map (Builder.rename f g) = s.builders := congrArg Store.builders fixed
  have configs : s.configs.map (Config.rename (Reference.map f g)) = s.configs :=
    congrArg Store.configs fixed
  refine ⟨fun i => ?_, fun k => ?_⟩
  · rw [← List.getElem?_map]
    have swap := getElem?_exchange s.builders (p.builders.map (Builder.rename f g))
      (q.builders.map (Builder.rename f g)) i
    rw [List.length_map, List.length_map, ← hf] at swap
    simpa only [append, rename, List.map_append, builders] using swap
  · rw [← List.getElem?_map]
    have swap := getElem?_exchange s.configs (p.configs.map (Config.rename (Reference.map f g)))
      (q.configs.map (Config.rename (Reference.map f g))) k
    rw [List.length_map, List.length_map, ← hg] at swap
    simpa only [append, rename, List.map_append, configs] using swap

/-! ## What a copy depends on -/

/-- The objects that are copied with a builder, moved to other places. -/
def copies (s : Store) (id : Nat) (F : Reference → Reference) : Store where
  builders := ((s.copiedBuilders id).filterMap (s.builders[·]?)).map (relocateBuilder F)
  configs := ((s.copiedConfigs id).filterMap (s.configs[·]?)).map (Config.relocate F)

/-- Where the copies of what a builder of one store reaches are put at the end of another store. -/
def placeAfter (t s : Store) (id : Nat) : Reference → Reference :=
  Reference.map (place t.builders.length (s.copiedBuilders id))
    (place t.configs.length (s.copiedConfigs id))

theorem copy_eq_copies (s : Store) (id : Nat) :
    s.copy id = (s.append (s.copies id (s.placeAfter s id)),
      place s.builders.length (s.copiedBuilders id) id) := copy_eq s id

theorem Scoped.copy_of_keeps (h : s.Scoped) (inside : .builder id ∈ s.references)
    (keeps : s.Keeps (s.Leads (.builder id)) t)
    (larger : s.references.length ≤ t.references.length) :
    t.copy id = (t.append (s.copies id (t.placeAfter s id)),
      place t.builders.length (s.copiedBuilders id) id) := by
  have reached := h.reached_of_keeps inside keeps larger
  have builders : t.copiedBuilders id = s.copiedBuilders id := by
    rw [copiedBuilders, reached, copiedBuilders]
  have configs : t.copiedConfigs id = s.copiedConfigs id := by
    rw [copiedConfigs, reached, copiedConfigs]
  have kept : (s.copiedBuilders id).filterMap (t.builders[·]?) =
      (s.copiedBuilders id).filterMap (s.builders[·]?) :=
    List.filterMap_congr fun i hi =>
      keeps.builder i ((h.mem_reached inside).mp (mem_copiedBuilders.mp hi))
  have kept' : (s.copiedConfigs id).filterMap (t.configs[·]?) =
      (s.copiedConfigs id).filterMap (s.configs[·]?) :=
    List.filterMap_congr fun k hk =>
      keeps.config k ((h.mem_reached inside).mp (mem_copiedConfigs.mp hk))
  rw [copy_eq_copies, copies, placeAfter, builders, configs, kept, kept']
  rfl

/-- A builder may change before the copy or after it, unless it is copied. -/
theorem Scoped.copy_setBuilder (h : s.Scoped) (inside : .builder id ∈ s.references) (d : Builder)
    (known : .builder j ∈ s.references) (apart : ¬s.Leads (.builder id) (.builder j)) :
    (s.setBuilder j d).copy id = ((s.copy id).1.setBuilder j d, (s.copy id).2) := by
  have keeps : s.Keeps (s.Leads (.builder id)) (s.setBuilder j d) := keeps_setBuilder d apart
  rw [h.copy_of_keeps inside keeps (by simp [length_references]),
    copy_eq_copies]
  simp [append, placeAfter, Store.setBuilder,
    List.set_append_left _ _ (builder_mem_references.mp known)]

theorem Scoped.copy_setConfig (h : s.Scoped) (inside : .builder id ∈ s.references) (c : Config)
    (known : .config k ∈ s.references) (apart : ¬s.Leads (.builder id) (.config k)) :
    (s.setConfig k c).copy id = ((s.copy id).1.setConfig k c, (s.copy id).2) := by
  have keeps : s.Keeps (s.Leads (.builder id)) (s.setConfig k c) := keeps_setConfig c apart
  rw [h.copy_of_keeps inside keeps (by simp [length_references, Store.setConfig]),
    copy_eq_copies]
  simp [append, placeAfter, Store.setConfig,
    List.set_append_left _ _ (config_mem_references.mp known)]

/-! ## Two copies -/

/-- Each of the objects that are copied is there. -/
theorem Scoped.length_copies (h : s.Scoped) (inside : .builder id ∈ s.references)
    (F : Reference → Reference) :
    (s.copies id F).builders.length = (s.copiedBuilders id).length ∧
      (s.copies id F).configs.length = (s.copiedConfigs id).length := by
  have known {x : Reference} (hx : x ∈ s.reached (.builder id)) : x ∈ s.references :=
    h.leads_inside inside ((h.mem_reached inside).mp hx)
  simp only [copies, List.length_map]
  constructor
  · refine List.filterMap_length_eq_length.mpr fun i hi => ?_
    simp [builder_mem_references.mp (known (mem_copiedBuilders.mp hi))]
  · refine List.filterMap_length_eq_length.mpr fun k hk => ?_
    simp [config_mem_references.mp (known (mem_copiedConfigs.mp hk))]

/-- Copies that lie at one place are renamed to copies that lie at another one. -/
theorem Scoped.rename_copies (h : s.Scoped) (inside : .builder id ∈ s.references)
    {f g f₁ g₁ f₂ g₂ : Nat → Nat}
    (same : ∀ x ∈ s.reached (.builder id), (x.map f₁ g₁).map f g = x.map f₂ g₂) :
    (s.copies id (Reference.map f₁ g₁)).rename f g = s.copies id (Reference.map f₂ g₂) := by
  have closed := h.reached inside
  simp only [rename, copies, List.map_map]
  congr 1
  · refine List.map_congr_left fun b hb => Builder.rename_relocate fun x hx => same x ?_
    obtain ⟨i, hi, found⟩ := List.mem_filterMap.mp hb
    exact closed _ x (mem_copiedBuilders.mp hi) (by rwa [links_builder found])
  · refine List.map_congr_left fun c hc => Config.rename_relocate fun x hx => same x ?_
    obtain ⟨k, hk, found⟩ := List.mem_filterMap.mp hc
    exact closed _ x (mem_copiedConfigs.mp hk) (by rwa [links_config found])

/-- The objects of a store stay as they are when other ones are renamed. -/
theorem Scoped.rename_eq_self (h : s.Scoped) {f g : Nat → Nat}
    (fixed : ∀ x ∈ s.references, x.map f g = x) : s.rename f g = s := by
  have builders : s.builders.map (Builder.rename f g) = s.builders := by
    refine (List.map_congr_left fun b hb => ?_).trans (List.map_id _)
    refine b.rename_eq_self fun x hx => fixed x ?_
    rcases List.mem_cons.mp hx with rfl | hx
    · exact config_mem_references.mpr (h.settings b hb)
    · exact h.clauses b hb hx
  have configs : s.configs.map (Config.rename (Reference.map f g)) = s.configs := by
    refine (List.map_congr_left fun c hc => ?_).trans (List.map_id _)
    exact c.rename_eq_self fun x hx => fixed x (h.fields c hc hx)
  rw [rename, builders, configs]

theorem Scoped.copy_after_copy (h : s.Scoped) (inside : .builder id ∈ s.references) (j : Nat) :
    (s.copy j).1.copy id = ((s.copy j).1.append (s.copies id ((s.copy j).1.placeAfter s id)),
      place (s.copy j).1.builders.length (s.copiedBuilders id) id) := by
  refine h.copy_of_keeps inside ((s.keeps_copy j).mono fun x => h.leads_inside inside) ?_
  rw [length_references, length_references, copy_eq]
  simp only [List.length_append]
  omega

/-- Two copies may be made in either order, but for the numbers of the new objects. -/
theorem Scoped.copy_copy (h : s.Scoped) {a b : Nat} (ha : .builder a ∈ s.references)
    (hb : .builder b ∈ s.references) :
    ∃ f g : Equiv.Perm Nat, (∀ x ∈ s.references, x.map f g = x) ∧
      ((s.copy a).1.copy b).1.Renamed f g ((s.copy b).1.copy a).1 ∧
      f (s.copy a).2 = ((s.copy b).1.copy a).2 ∧ f ((s.copy a).1.copy b).2 = (s.copy b).2 := by
  let f := exchange s.builders.length (s.copiedBuilders a).length (s.copiedBuilders b).length
  let g := exchange s.configs.length (s.copiedConfigs a).length (s.copiedConfigs b).length
  have fixed : ∀ x ∈ s.references, x.map f g = x := by
    intro x hx
    cases x with
    | builder i => exact congrArg _ (exchange_of_lt (builder_mem_references.mp hx))
    | config k => exact congrArg _ (exchange_of_lt (config_mem_references.mp hx))
  have builders (i : Nat) (hi : .builder i ∈ s.references) :
      (s.copy i).1.builders.length = s.builders.length + (s.copiedBuilders i).length := by
    rw [copy_eq_copies, append, List.length_append, (h.length_copies hi _).1]
  have configs (i : Nat) (hi : .builder i ∈ s.references) :
      (s.copy i).1.configs.length = s.configs.length + (s.copiedConfigs i).length := by
    rw [copy_eq_copies, append, List.length_append, (h.length_copies hi _).2]
  have first : (s.copies a (s.placeAfter s a)).rename f g =
      s.copies a ((s.copy b).1.placeAfter s a) := by
    refine h.rename_copies ha fun x hx => ?_
    rw [builders b hb, configs b hb]
    cases x with
    | builder i => exact congrArg _ (exchange_first (mem_copiedBuilders.mpr hx))
    | config k => exact congrArg _ (exchange_first (mem_copiedConfigs.mpr hx))
  have second : (s.copies b ((s.copy a).1.placeAfter s b)).rename f g =
      s.copies b (s.placeAfter s b) := by
    refine h.rename_copies hb fun x hx => ?_
    rw [builders a ha, configs a ha]
    cases x with
    | builder i => exact congrArg _ (exchange_second (mem_copiedBuilders.mpr hx))
    | config k => exact congrArg _ (exchange_second (mem_copiedConfigs.mpr hx))
  refine ⟨f, g, fixed, ?_, ?_, ?_⟩
  · rw [h.copy_after_copy hb a, h.copy_after_copy ha b]
    have made (i : Nat) : s.append (s.copies i (s.placeAfter s i)) = (s.copy i).1 :=
      (congrArg Prod.fst (s.copy_eq_copies i)).symm
    have swapped := renamed_append (f := f) (g := g) ?_ ?_ (h.rename_eq_self fixed) first second
    · rwa [made, made] at swapped
    · rw [(h.length_copies ha _).1, (h.length_copies hb _).1]
    · rw [(h.length_copies ha _).2, (h.length_copies hb _).2]
  · rw [h.copy_after_copy ha b, builders b hb, copy_eq_copies]
    exact exchange_first (mem_copiedBuilders.mpr (s.mem_within_self _ _))
  · rw [h.copy_after_copy hb a, builders a ha, copy_eq_copies]
    exact exchange_second (mem_copiedBuilders.mpr (s.mem_within_self _ _))

end Store

end SelectBuilder
