import SelectBuilder.Proofs.Builder.Loosening
import SelectBuilder.Proofs.Lists
import SelectBuilder.Proofs.Store.Rendering
import SelectBuilder.Proofs.Value.Relocation

/-!
# Mirrored objects

Objects of one store are mirrored in another one, each at a place of its own, if what they are made
of is shown alike once references are followed to these places. Then they have the same quoted forms
and the same texts. Both stores may be one, and the places may be the same.
-/
namespace SelectBuilder

/-- Two configurations have the same quoted form if what they refer to does. -/
def Config.Like (F : Reference → Reference) (c c' : Config) : Prop :=
  ∀ name name' : Reference → Outcome String, (∀ x ∈ c.references, name x = name' (F x)) →
    c.fields.map (fun p => (p.1, p.2.quotedForm name)) =
      c'.fields.map fun p => (p.1, p.2.quotedForm name')

/-- Two clauses have the same text if the statements that they refer to do. -/
def Clause.Like (f : Nat → Nat) (quoted quoted' : Reference → Outcome String) (c c' : Clause) :
    Prop :=
  ∀ statement statement' : Nat → Outcome String,
    (∀ j, .builder j ∈ c.references → statement j = statement' (f j)) →
      c.render ⟨statement, quoted⟩ = c'.render ⟨statement', quoted'⟩

theorem Config.Like.refl (c : Config) : c.Like (Reference.map id id) c := by
  intro name name' same
  refine List.map_congr_left fun p hp => ?_
  rw [Value.quotedForm_congr p.2 fun x hx => ?_]
  have shown := same x (List.mem_flatMap.mpr ⟨p, hp, hx⟩)
  cases x <;> exact shown

theorem Clause.Like.refl {quoted quoted' : Reference → Outcome String} {c : Clause}
    (same : ∀ x ∈ c.references, quoted x = quoted' x) : c.Like id quoted quoted' c :=
  fun _ _ statements => c.render_congr ⟨statements, same⟩

namespace Store

variable {s t : Store} {f g : Nat → Nat}

/-- Objects of a store that refer to one another alone are quoted like objects of another store. -/
structure QuotedAlike (f g : Nat → Nat) (X : Reference → Prop) (s t : Store) : Prop where
  injective : ∀ x y, X x → X y → x.map f g = y.map f g → x = y
  builder : ∀ i b, X (.builder i) → s.builders[i]? = some b →
    X (.config b.config) ∧ ∃ d, t.builders[f i]? = some d ∧ d.config = g b.config
  config : ∀ k c, X (.config k) → s.configs[k]? = some c →
    (∀ x ∈ c.references, X x) ∧ ∃ d, t.configs[g k]? = some d ∧ c.Like (Reference.map f g) d
  noBuilder : ∀ i, X (.builder i) → s.builders[i]? = none → t.builders[f i]? = none
  noConfig : ∀ k, X (.config k) → s.configs[k]? = none → t.configs[g k]? = none

theorem quotedWithin_alike {X : Reference → Prop} (h : s.QuotedAlike f g X t)
    {pending pending' : List Reference} (nodup : pending.Nodup) (nodup' : pending'.Nodup)
    (same : ∀ x, X x → (x ∈ pending ↔ x.map f g ∈ pending')) {x : Reference} (hx : X x) :
    s.quotedWithin pending x = t.quotedWithin pending' (x.map f g) := by
  fun_induction s.quotedWithin pending x generalizing pending' with
  | case1 pending id inside b found _ ih =>
    obtain ⟨kept, d, mirrored, config⟩ := h.builder id b hx found
    have erased := mem_erase_iff_of_inj h.injective nodup nodup' same hx
    have settings := ih (nodup.erase _) (nodup'.erase _) erased kept
    conv_rhs => rw [quotedWithin, dif_pos ((same _ hx).mp inside)]
    simp only [settings, Reference.map, mirrored, config]
  | case2 pending id inside none =>
    conv_rhs => rw [quotedWithin, dif_pos ((same _ hx).mp inside)]
    simp only [Reference.map, h.noBuilder id hx none]
  | case3 pending id inside c found _ ih =>
    obtain ⟨kept, d, mirrored, like⟩ := h.config id c hx found
    have erased := mem_erase_iff_of_inj h.injective nodup nodup' same hx
    have fields := like _ _ fun y hy =>
      ih y (nodup.erase _) (nodup'.erase _) erased (kept y hy)
    conv_rhs => rw [quotedWithin, dif_pos ((same _ hx).mp inside)]
    simp only [Reference.map, mirrored]
    exact congrArg _ fields
  | case4 pending id inside none =>
    conv_rhs => rw [quotedWithin, dif_pos ((same _ hx).mp inside)]
    simp only [Reference.map, h.noConfig id hx none]
  | case5 pending x outside =>
    rw [quotedWithin, dif_neg fun inside => outside ((same x hx).mpr inside)]

theorem nodup_references (s : Store) : s.references.Nodup := by
  refine List.nodup_append.mpr ⟨?_, ?_, ?_⟩
  · exact List.Nodup.map (fun _ _ => Reference.builder.inj) List.nodup_range
  · exact List.Nodup.map (fun _ _ => Reference.config.inj) List.nodup_range
  · simp

theorem builder_mem_references {i : Nat} :
    .builder i ∈ s.references ↔ i < s.builders.length := by
  simp [references]

theorem config_mem_references {i : Nat} : .config i ∈ s.references ↔ i < s.configs.length := by
  simp [references]

/-- An entry that is looked up in both lists, or in neither, is within the range of both or none. -/
theorem lt_length_iff {α β : Type} {l : List α} {m : List β} {i j : Nat}
    (found : ∀ a, l[i]? = some a → ∃ b, m[j]? = some b) (missing : l[i]? = none → m[j]? = none) :
    i < l.length ↔ j < m.length := by
  constructor
  · intro h
    obtain ⟨b, hb⟩ := found _ (List.getElem?_eq_getElem h)
    exact (List.getElem?_eq_some_iff.mp hb).1
  · intro h
    by_contra outside
    have := missing (List.getElem?_eq_none (Nat.le_of_not_lt outside))
    exact absurd h (Nat.not_lt.mpr (List.getElem?_eq_none_iff.mp this))

theorem quoted_alike {X : Reference → Prop} (h : s.QuotedAlike f g X t) {x : Reference}
    (hx : X x) : s.quoted x = t.quoted (x.map f g) := by
  refine s.quotedWithin_alike h s.nodup_references t.nodup_references (fun y hy => ?_) hx
  cases y with
  | builder i =>
    rw [builder_mem_references, Reference.map, builder_mem_references]
    exact lt_length_iff (fun b found => ⟨_, (h.builder i b hy found).2.choose_spec.1⟩)
      (h.noBuilder i hy)
  | config k =>
    rw [config_mem_references, Reference.map, config_mem_references]
    exact lt_length_iff (fun c found => ⟨_, (h.config k c hy found).2.choose_spec.1⟩)
      (h.noConfig k hy)

/-- Builders of a store that refer to one another alone are written like builders of another
store. -/
structure WrittenAlike (f : Nat → Nat) (X : Nat → Prop) (s t : Store) : Prop where
  injective : ∀ i j, X i → X j → f i = f j → i = j
  builder : ∀ i b, X i → s.builders[i]? = some b → (∀ j, .builder j ∈ b.references → X j) ∧
    ∃ d, t.builders[f i]? = some d ∧
      List.Forall₂ (Clause.Like f s.quoted t.quoted) b.clauses d.clauses
  noBuilder : ∀ i, X i → s.builders[i]? = none → t.builders[f i]? = none

theorem textWithin_alike {X : Nat → Prop} (h : s.WrittenAlike f X t) {pending pending' : List Nat}
    (nodup : pending.Nodup) (nodup' : pending'.Nodup)
    (same : ∀ i, X i → (i ∈ pending ↔ f i ∈ pending')) {i : Nat} (hi : X i) :
    s.textWithin pending i = t.textWithin pending' (f i) := by
  fun_induction s.textWithin pending i generalizing pending' with
  | case1 pending i inside b found ih =>
    obtain ⟨kept, d, mirrored, like⟩ := h.builder i b hi found
    have erased := mem_erase_iff_of_inj h.injective nodup nodup' same hi
    have statements : ∀ j, X j →
        s.textWithin (pending.erase i) j = t.textWithin (pending'.erase (f i)) (f j) :=
      fun j hj => ih j (nodup.erase _) (nodup'.erase _) erased hj
    have among := (List.forall₂_and_left _ _).mpr ⟨fun c hc => hc, like⟩
    have texts : b.clauses.mapM (Clause.render ⟨s.textWithin (pending.erase i), s.quoted⟩) =
        d.clauses.mapM (Clause.render ⟨t.textWithin (pending'.erase (f i)), t.quoted⟩) :=
      Outcome.mapM_eq_of_forall₂ <| among.imp fun c c' both => both.2 _ _ fun j hj =>
        statements j (kept j (List.mem_flatMap.mpr ⟨c, both.1, hj⟩))
    conv_rhs => rw [textWithin, dif_pos ((same i hi).mp inside)]
    simp only [mirrored, Builder.render, texts]
  | case2 pending i inside none =>
    conv_rhs => rw [textWithin, dif_pos ((same i hi).mp inside)]
    simp only [h.noBuilder i hi none]
  | case3 pending i outside =>
    rw [textWithin, dif_neg fun inside => outside ((same i hi).mpr inside)]

theorem render_alike {X : Nat → Prop} (h : s.WrittenAlike f X t) {i : Nat} (hi : X i) :
    s.render i = t.render (f i) := by
  refine s.textWithin_alike h List.nodup_range List.nodup_range (fun j hj => ?_) hi
  rw [List.mem_range, List.mem_range]
  exact lt_length_iff (fun b found => ⟨_, (h.builder j b hj found).2.choose_spec.1⟩)
    (h.noBuilder j hj)

/-- Builders that stay as they are have the text that they had if what they refer to is quoted as
before. -/
theorem WrittenAlike.of_same {X : Nat → Prop}
    (same : ∀ i, X i → t.builders[i]? = s.builders[i]?)
    (closed : ∀ i b, X i → s.builders[i]? = some b → ∀ j, .builder j ∈ b.references → X j)
    (quoted : ∀ i b, X i → s.builders[i]? = some b → ∀ x ∈ b.references, s.quoted x = t.quoted x) :
    s.WrittenAlike id X t where
  injective _ _ _ _ h := h
  builder i b hi found :=
    ⟨closed i b hi found, b, (same i hi).trans found, List.forall₂_same.mpr fun c hc =>
      .refl fun x hx => quoted i b hi found x (List.mem_flatMap.mpr ⟨c, hc, hx⟩)⟩
  noBuilder i hi none := (same i hi).trans none

end Store

end SelectBuilder
