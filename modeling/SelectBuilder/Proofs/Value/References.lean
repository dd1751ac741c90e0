import SelectBuilder.Proofs.Outcome
import SelectBuilder.Value.Relocation

/-!
# References kept

What is made of a value refers to nothing that the value does not refer to.
-/
namespace SelectBuilder

variable {r : Resolver}

theorem exists_of_mem_mapM {α β : Type} {f : α → Option β} {items : List α} {made : List β}
    (h : items.mapM f = some made) {b : β} (among : b ∈ made) : ∃ a ∈ items, f a = some b := by
  induction items generalizing made with
  | nil =>
    cases h
    cases among
  | cons a rest ih =>
    rw [List.mapM_cons] at h
    obtain ⟨c, first, h⟩ := Option.bind_eq_some_iff.mp h
    obtain ⟨later, others, h⟩ := Option.bind_eq_some_iff.mp h
    cases h
    rcases List.mem_cons.mp among with rfl | among
    · exact ⟨a, List.mem_cons_self, first⟩
    · obtain ⟨d, hd, made⟩ := ih others among
      exact ⟨d, List.mem_cons_of_mem a hd, made⟩

theorem references_aliased {base aliasName v : Value} (h : aliased r base aliasName = .ok v) :
    v.references ⊆ base.references := by
  unfold aliased at h
  split at h
  · obtain ⟨b, -, h⟩ := Outcome.bind_eq_ok.mp h
    obtain ⟨a, -, h⟩ := Outcome.bind_eq_ok.mp h
    cases h
    simp [Value.references]
  · cases h
    exact List.Subset.refl _

theorem Table.references_render {t : Table} {v : Value} (h : t.render r = .ok v) :
    v.references ⊆ t.references := by
  unfold Table.render at h
  dsimp only at h
  split at h
  · obtain ⟨target, made, h⟩ := Outcome.bind_eq_ok.mp h
    obtain ⟨s, -, rfl⟩ := Outcome.map_eq_ok.mp made
    exact List.Subset.trans (references_aliased h) (by simp [Value.references])
  · exact List.Subset.trans (references_aliased h) (by simp [Table.references])

namespace Value

theorem references_inner {v w : Value} (h : v.inner = .ok w) :
    w.references ⊆ v.references := by
  have inner := inner_eq_ok.mp h
  unfold inner? at inner
  split at inner
  case h_6 args =>
    cases inner
    cases args with
    | nil => simp [references]
    | cons v rest => simp [references]
  all_goals
    cases inner
    try simp [references]

theorem references_toLiteral {v w : Value} (h : v.toLiteral r = .ok w) :
    w.references ⊆ v.references := by
  unfold toLiteral at h
  split at h
  case h_13 =>
    obtain ⟨t, -, h⟩ := Outcome.bind_eq_ok.mp h
    cases h
    simp [references]
  all_goals
    cases h
    simp [references]

theorem references_render {v w : Value} (h : v.render r = .ok w) :
    w.references ⊆ v.references := by
  cases v with
  | raw v =>
    cases h
    exact List.Subset.refl _
  | column n a =>
    exact List.Subset.trans (references_aliased h) (List.subset_append_left ..)
  | table s a q => exact Table.references_render h
  | order c d =>
    change SortItem.render r ⟨c, d⟩ = .ok w at h
    unfold SortItem.render at h
    dsimp only at h
    split at h
    · cases h
      exact List.subset_append_left ..
    · obtain ⟨s, -, h⟩ := Outcome.bind_eq_ok.mp h
      obtain ⟨w, -, h⟩ := Outcome.bind_eq_ok.mp h
      obtain ⟨t, -, h⟩ := Outcome.bind_eq_ok.mp h
      cases h
      simp [references]
  | reference x =>
    cases x with
    | builder id =>
      obtain ⟨t, -, h⟩ := Outcome.bind_eq_ok.mp h
      cases h
      simp [references]
    | config id => cases h
  | number v | quoted v =>
    obtain ⟨t, -, h⟩ := Outcome.bind_eq_ok.mp h
    cases h
    simp [references]
  | _ => cases h

theorem references_toRaw {v w : Value} (h : v.toRaw r = .ok w) : w.references ⊆ v.references := by
  unfold toRaw at h
  split at h
  · exact references_render (v := number _) h
  · exact references_render (v := quoted _) h
  · exact references_render (v := raw _) h
  · obtain ⟨t, -, h⟩ := Outcome.bind_eq_ok.mp h
    cases h
    simp [references]

theorem references_entries {entries : List (Value × Value)} {e : Value × Value}
    (h : e ∈ entries) : e.1.references ⊆ referencesEntries entries := by
  induction entries with
  | nil => cases h
  | cons f rest ih =>
    rcases List.mem_cons.mp h with rfl | later
    · simp [referencesEntries]
    · exact List.Subset.trans (ih later) (List.subset_append_right ..)

theorem references_items? {v item : Value} {items : List Value} (h : v.items? = some items)
    (among : item ∈ items) : item.references ⊆ v.references := by
  unfold items? at h
  split at h
  case h_5 entries =>
    cases h
    obtain ⟨e, he, rfl⟩ := List.mem_map.mp among
    exact references_entries he
  case h_6 content =>
    cases h
    obtain ⟨b, -, rfl⟩ := List.mem_map.mp among
    simp [references]
  case h_7 =>
    obtain ⟨s, -, rfl⟩ := Option.map_eq_some_iff.mp h
    obtain ⟨n, -, rfl⟩ := List.mem_map.mp among
    simp [references]
  all_goals
    cases h
    simp only [references, referencesAll_eq_flatMap]
    exact fun x hx => List.mem_flatMap.mpr ⟨item, among, hx⟩

theorem references_sequence? {v : Value} {items : List Value} (h : v.sequence? = some items) :
    v.references = items.flatMap references := by
  cases v <;> cases h <;> exact referencesAll_eq_flatMap _

theorem references_orNull (v : Value) : v.orNull.references ⊆ v.references := by
  unfold orNull
  split
  · exact List.Subset.refl _
  · simp [references]

theorem references_embedded {v w : Value} (h : v.embedded r = .ok w) :
    w.references ⊆ v.references := by
  unfold embedded at h
  split at h
  · obtain ⟨t, -, h⟩ := Outcome.bind_eq_ok.mp h
    cases h
    simp [references]
  · cases h
    exact List.Subset.refl _

theorem references_toColumn? {v : Value} {c : Column} (h : v.toColumn? = some c) :
    c.name.references ++ c.aliasName.references ⊆ v.references := by
  unfold toColumn? at h
  split at h
  · split at h
    · cases h
      exact List.Subset.refl _
    · cases h
  · split at h
    · split at h
      · cases h
        simp [references]
      · cases h
    · split at h
      · next n sequence =>
        split at h
        · cases h
          simp [references_sequence? sequence, references]
        · cases h
      · next n a sequence =>
        split at h
        · cases h
          simp [references_sequence? sequence, List.append_subset]
          exact List.Subset.trans (references_orNull a) (List.subset_append_right ..)
        · cases h
      · cases h

theorem references_toDirection? {v w : Value} (h : v.toDirection? r = .ok (some w)) :
    w.references = [] := by
  rcases toDirection?_cases h with rfl | ⟨d, rfl⟩ <;> rfl

theorem references_toSortItem? {v : Value} {i : SortItem} (h : v.toSortItem? r = .ok (some i)) :
    i.column.references ++ i.direction.references ⊆ v.references := by
  unfold toSortItem? at h
  split at h
  · split at h
    · cases h
      exact List.Subset.refl _
    · cases h
  · split at h
    · split at h
      · cases h
        simp [references]
      · cases h
    · split at h
      · next c sequence =>
        split at h
        · cases h
          simp [references_sequence? sequence, references]
        · cases h
      · next c d sequence =>
        split at h
        · obtain ⟨d', directed, h⟩ := Outcome.bind_eq_ok.mp h
          obtain ⟨d'', rfl, rfl⟩ := Option.map_eq_some_iff.mp (Except.ok.inj h)
          simp [references_sequence? sequence, references_toDirection? directed]
        · cases h
      · cases h

end Value

end SelectBuilder
