import SelectBuilder.Proofs.Store.Reachability
import SelectBuilder.Proofs.Store.Relocation

/-!
# The copy of a builder

A copy adds to the store, for each object that the builder reaches, an object that refers to the
added ones as the old object refers to the old ones. Old and added objects do not refer to each
other, and the added ones are shown like the old ones.
-/
namespace SelectBuilder

/-! ## Entries copied to the end of a table -/

/-- The new place of an entry of a table when some entries are copied to its end. -/
def place (size : Nat) (moved : List Nat) (i : Nat) : Nat :=
  match moved.idxOf? i with
  | some k => size + k
  | none => i

section

variable {moved : List Nat} {size i j : Nat}

theorem place_of_mem (hi : i ∈ moved) :
    ∃ k, (∀ size, place size moved i = size + k) ∧ moved[k]? = some i := by
  obtain ⟨k, hk⟩ := Option.isSome_iff_exists.mp (List.isSome_idxOf?.mpr hi)
  obtain ⟨inside, at', -⟩ := List.idxOf?_eq_some_iff.mp hk
  exact ⟨k, fun size => by simp [place, hk], by simp [inside, at']⟩

theorem le_place (hi : i ∈ moved) : size ≤ place size moved i := by
  obtain ⟨k, at', -⟩ := place_of_mem hi
  have := at' size
  omega

theorem place_inj (hi : i ∈ moved) (hj : j ∈ moved)
    (same : place size moved i = place size moved j) : i = j := by
  obtain ⟨k, hk, found⟩ := place_of_mem hi
  obtain ⟨l, hl, found'⟩ := place_of_mem hj
  obtain rfl : k = l := by
    rw [hk, hl] at same
    omega
  exact Option.some.inj (found.symm.trans found')

theorem getElem?_place {α : Type} {table : List α} {h : α → α}
    (inside : ∀ i ∈ moved, i < table.length) (hi : i ∈ moved) :
    (table ++ (moved.filterMap (table[·]?)).map h)[place table.length moved i]? =
      table[i]?.map h := by
  obtain ⟨k, same, found⟩ := place_of_mem hi
  have all : ∀ i ∈ moved, (table[i]?).isSome := fun i hi => by simp [inside i hi]
  rw [same, List.getElem?_append_right (Nat.le_add_right ..), Nat.add_sub_cancel_left,
    List.getElem?_map, getElem?_filterMap_of_isSome all, found, Option.bind_some]

/-- An entry is an old one, or comes of one that is copied. -/
theorem getElem?_copied_cases {α : Type} {table : List α} {h : α → α} {a : α}
    (found : (table ++ (moved.filterMap (table[·]?)).map h)[i]? = some a) :
    table[i]? = some a ∨ ∃ j ∈ moved, ∃ b, table[j]? = some b ∧ h b = a := by
  rw [List.getElem?_append] at found
  split at found
  · exact .inl found
  · obtain ⟨b, hb, same⟩ := List.mem_map.mp (List.mem_of_getElem? found)
    obtain ⟨j, hj, source⟩ := List.mem_filterMap.mp hb
    exact .inr ⟨j, hj, b, source, same⟩

end

namespace Store

variable {s t : Store} {f g : Nat → Nat} {X : Reference → Prop} {x y : Reference}

/-! ## Objects moved to other places -/

/-- Objects that refer to one another alone are in another store once more, at other places. -/
structure Moved (f g : Nat → Nat) (X : Reference → Prop) (s t : Store) : Prop where
  inside : ∀ x, X x → x ∈ s.references
  closed : s.Closed X
  injective : ∀ x y, X x → X y → x.map f g = y.map f g → x = y
  builder : ∀ i b, X (.builder i) → s.builders[i]? = some b →
    t.builders[f i]? = some (relocateBuilder (Reference.map f g) b)
  config : ∀ k c, X (.config k) → s.configs[k]? = some c →
    t.configs[g k]? = some (c.relocate (Reference.map f g))

theorem Moved.found (h : s.Moved f g X t) {i : Nat} (hi : X (.builder i)) :
    ∃ b, s.builders[i]? = some b :=
  ⟨_, List.getElem?_eq_getElem (builder_mem_references.mp (h.inside _ hi))⟩

theorem Moved.foundConfig (h : s.Moved f g X t) {k : Nat} (hk : X (.config k)) :
    ∃ c, s.configs[k]? = some c :=
  ⟨_, List.getElem?_eq_getElem (config_mem_references.mp (h.inside _ hk))⟩

theorem Moved.map_inside (h : s.Moved f g X t) (hx : X x) : x.map f g ∈ t.references := by
  cases x with
  | builder i =>
    obtain ⟨b, found⟩ := h.found hx
    exact builder_mem_references.mpr (List.getElem?_eq_some_iff.mp (h.builder i b hx found)).1
  | config k =>
    obtain ⟨c, found⟩ := h.foundConfig hx
    exact config_mem_references.mpr (List.getElem?_eq_some_iff.mp (h.config k c hx found)).1

theorem Moved.quotedAlike (h : s.Moved f g X t) : s.QuotedAlike f g X t where
  injective := h.injective
  builder i b hi found :=
    ⟨h.closed _ _ hi (by simp [links_builder found]), _, h.builder i b hi found, rfl⟩
  config k c hk found :=
    ⟨fun x hx => h.closed _ x hk (by rwa [links_config found]), _, h.config k c hk found,
      c.like_relocate⟩
  noBuilder i hi none := by
    obtain ⟨b, found⟩ := h.found hi
    rw [none] at found
    cases found
  noConfig k hk none := by
    obtain ⟨c, found⟩ := h.foundConfig hk
    rw [none] at found
    cases found

theorem Moved.quoted (h : s.Moved f g X t) (hx : X x) : s.quoted x = t.quoted (x.map f g) :=
  s.quoted_alike h.quotedAlike hx

theorem links_relocateBuilder (f g : Nat → Nat) (b : Builder) :
    .config (relocateBuilder (Reference.map f g) b).config ::
        (relocateBuilder (Reference.map f g) b).references =
      (Reference.config b.config :: b.references).map (Reference.map f g) := by
  rw [Builder.references_relocate, List.map_cons]
  rfl

/-- The moved objects refer to one another as the old ones do. -/
theorem Moved.links (h : s.Moved f g X t) (hx : X x) :
    t.links (x.map f g) = (s.links x).map (Reference.map f g) := by
  cases x with
  | builder i =>
    obtain ⟨b, found⟩ := h.found hx
    rw [Reference.map, links_builder (h.builder i b hx found), links_builder found,
      links_relocateBuilder]
  | config k =>
    obtain ⟨c, found⟩ := h.foundConfig hx
    rw [Reference.map, links_config (h.config k c hx found), links_config found,
      Config.references_relocate]

theorem Moved.leads (h : s.Moved f g X t) (hx : X x) (leads : Relation.TransGen s.Links x y) :
    Relation.TransGen t.Links (x.map f g) (y.map f g) := by
  have link {x y : Reference} (hx : X x) (link : s.Links x y) :
      t.Links (x.map f g) (y.map f g) := by
    rw [Links, h.links hx]
    exact List.mem_map_of_mem link
  induction leads with
  | single first => exact .single (link hx first)
  | tail before last ih => exact ih.tail (link (h.closed.leads hx before.to_reflTransGen) last)

/-! ## The copy -/

/-- The builders that are copied with a builder, in the order of their copies. -/
def copiedBuilders (s : Store) (id : Nat) : List Nat :=
  (s.reached (.builder id)).filterMap Reference.builder?

/-- The configurations that are copied with a builder. -/
def copiedConfigs (s : Store) (id : Nat) : List Nat :=
  (s.reached (.builder id)).filterMap Reference.config?

def builderPlace (s : Store) (id : Nat) : Nat → Nat :=
  place s.builders.length (s.copiedBuilders id)

def configPlace (s : Store) (id : Nat) : Nat → Nat := place s.configs.length (s.copiedConfigs id)

variable {id : Nat}

theorem mem_copiedBuilders {i : Nat} :
    i ∈ s.copiedBuilders id ↔ .builder i ∈ s.reached (.builder id) := by
  rw [copiedBuilders, List.mem_filterMap]
  constructor
  · rintro ⟨x, hx, same⟩
    cases x <;> cases same
    exact hx
  · exact fun hi => ⟨_, hi, rfl⟩

theorem mem_copiedConfigs {k : Nat} :
    k ∈ s.copiedConfigs id ↔ .config k ∈ s.reached (.builder id) := by
  rw [copiedConfigs, List.mem_filterMap]
  constructor
  · rintro ⟨x, hx, same⟩
    cases x <;> cases same
    exact hx
  · exact fun hk => ⟨_, hk, rfl⟩

theorem copy_eq (s : Store) (id : Nat) :
    s.copy id =
      ({ builders := s.builders ++ ((s.copiedBuilders id).filterMap (s.builders[·]?)).map
          (relocateBuilder (Reference.map (s.builderPlace id) (s.configPlace id)))
         configs := s.configs ++ ((s.copiedConfigs id).filterMap (s.configs[·]?)).map
          (Config.relocate (Reference.map (s.builderPlace id) (s.configPlace id))) },
        s.builderPlace id id) := by
  have placement : s.placement (s.copiedBuilders id) (s.copiedConfigs id) =
      Reference.map (s.builderPlace id) (s.configPlace id) := by
    funext x
    cases x <;> rfl
  rw [← placement]
  rfl

theorem keeps_copy (s : Store) (id : Nat) : s.Keeps (· ∈ s.references) (s.copy id).1 where
  builder i hi := by
    rw [copy_eq]
    exact List.getElem?_append_left (builder_mem_references.mp hi)
  config k hk := by
    rw [copy_eq]
    exact List.getElem?_append_left (config_mem_references.mp hk)

theorem map_copy_fresh (hx : x ∈ s.reached (.builder id)) :
    x.map (s.builderPlace id) (s.configPlace id) ∉ s.references := by
  cases x with
  | builder i =>
    rw [Reference.map, builder_mem_references, Nat.not_lt]
    exact le_place (mem_copiedBuilders.mpr hx)
  | config k =>
    rw [Reference.map, config_mem_references, Nat.not_lt]
    exact le_place (mem_copiedConfigs.mpr hx)

/-- The copy of the builder is a new object. -/
theorem copy_fresh (s : Store) (id : Nat) : .builder (s.copy id).2 ∉ s.references := by
  rw [copy_eq]
  exact map_copy_fresh (s.mem_within_self (.builder id) _)

/-- The objects that a builder reaches are moved to the end of the store. -/
theorem Scoped.moved (h : s.Scoped) (inside : .builder id ∈ s.references) :
    s.Moved (s.builderPlace id) (s.configPlace id) (· ∈ s.reached (.builder id))
      (s.copy id).1 := by
  have reached : ∀ x ∈ s.reached (.builder id), x ∈ s.references :=
    h.within (List.cons_subset.mpr ⟨inside, List.nil_subset _⟩) _
  constructor
  case inside => exact reached
  case closed => exact h.reached inside
  case injective =>
    intro x y hx hy same
    cases x <;> cases y <;> simp only [Reference.map, reduceCtorEq, Reference.builder.injEq,
      Reference.config.injEq] at same ⊢
    · exact place_inj (mem_copiedBuilders.mpr hx) (mem_copiedBuilders.mpr hy) same
    · exact place_inj (mem_copiedConfigs.mpr hx) (mem_copiedConfigs.mpr hy) same
  case builder =>
    intro i b hi found
    rw [copy_eq]
    refine (getElem?_place (fun j hj => ?_) (mem_copiedBuilders.mpr hi)).trans (by rw [found]; rfl)
    exact builder_mem_references.mp (reached _ (mem_copiedBuilders.mp hj))
  case config =>
    intro k c hk found
    rw [copy_eq]
    refine (getElem?_place (fun j hj => ?_) (mem_copiedConfigs.mpr hk)).trans (by rw [found]; rfl)
    exact config_mem_references.mp (reached _ (mem_copiedConfigs.mp hj))

/-- An object of the copied store refers to what it referred to before, if it was there, or else to
copies of objects that are reached. -/
theorem links_copy (closed : s.Closed (· ∈ s.reached (.builder id)))
    (link : (s.copy id).1.Links x y) :
    s.Links x y ∨
      ∃ z ∈ s.reached (.builder id), z.map (s.builderPlace id) (s.configPlace id) = y := by
  cases x with
  | builder i =>
    cases found : (s.copy id).1.builders[i]? with
    | none => simp [Links, Store.links, found] at link
    | some d =>
      rw [Links, links_builder found] at link
      rw [copy_eq] at found
      rcases getElem?_copied_cases found with old | ⟨j, hj, b, inside, rfl⟩
      · rw [Links, links_builder old]
        exact .inl link
      · rw [links_relocateBuilder, List.mem_map] at link
        obtain ⟨z, hz, same⟩ := link
        exact .inr
          ⟨z, closed _ z (mem_copiedBuilders.mp hj) (by rwa [links_builder inside]), same⟩
  | config k =>
    cases found : (s.copy id).1.configs[k]? with
    | none => simp [Links, Store.links, found] at link
    | some d =>
      rw [Links, links_config found] at link
      rw [copy_eq] at found
      rcases getElem?_copied_cases found with old | ⟨j, hj, c, inside, rfl⟩
      · rw [Links, links_config old]
        exact .inl link
      · rw [Config.references_relocate, List.mem_map] at link
        obtain ⟨z, hz, same⟩ := link
        exact .inr ⟨z, closed _ z (mem_copiedConfigs.mp hj) (by rwa [links_config inside]), same⟩

theorem inside_of_links (link : s.Links x y) : x ∈ s.references := by
  cases x with
  | builder i =>
    refine builder_mem_references.mpr (Nat.lt_of_not_le fun outside => ?_)
    simp [Links, Store.links, List.getElem?_eq_none outside] at link
  | config k =>
    refine config_mem_references.mpr (Nat.lt_of_not_le fun outside => ?_)
    simp [Links, Store.links, List.getElem?_eq_none outside] at link

/-- The added objects refer to none of the old ones. -/
theorem Scoped.copy_apart (h : s.Scoped) (inside : .builder id ∈ s.references) :
    (s.copy id).1.Closed (· ∉ s.references) := by
  intro x y new link
  rcases links_copy (h.reached inside) link with old | ⟨z, hz, rfl⟩
  · exact absurd (inside_of_links old) new
  · exact map_copy_fresh hz

/-- The copy of the builder is added. -/
theorem Scoped.copy_inside (h : s.Scoped) (inside : .builder id ∈ s.references) :
    .builder (s.copy id).2 ∈ (s.copy id).1.references := by
  have moved := (h.moved inside).map_inside (s.mem_within_self (.builder id) _)
  rwa [copy_eq] at moved ⊢

/-- A copy refers to nothing that is not there. -/
theorem Scoped.copy (h : s.Scoped) (inside : .builder id ∈ s.references) :
    (s.copy id).1.Scoped := by
  refine scoped_iff_links.mpr fun x y link => ?_
  rcases links_copy (h.reached inside) link with old | ⟨z, hz, rfl⟩
  · exact (s.keeps_copy id).inside (h.links old)
  · exact (h.moved inside).map_inside hz

end Store

end SelectBuilder
