import SelectBuilder.Proofs.Builder.Planning
import SelectBuilder.Proofs.Value.Agreement

/-!
# Agreement on the operands of a call

Whether a call is accepted, and the change that it then makes, depend on a resolver only through the
references among its operands.
-/
namespace SelectBuilder

def Call.operands : Call → List Value
  | select columns => columns
  | source table aliasName => [table, aliasName]
  | sourceQuery query aliasName => [query, aliasName]
  | rows column => [column]
  | compare operator value => [operator, value]
  | differ value operator => [value, operator]
  | connect _ column => [column]
  | like _ pattern => [pattern]
  | between _ low high => [low, high]
  | within _ values => [values]
  | isNull _ => []
  | join joinType target on subquery => [joinType, target, on, subquery]
  | groupBy columns => columns
  | groups expression => [expression]
  | orderBy items => items
  | paginate count offset => [count, offset]
  | union _ query => [query]

/-- The references that occur in the operands of a call. -/
def Call.references (c : Call) : List Reference := c.operands.flatMap Value.references

variable {r r' : Resolver}

namespace Resolver.Agree

theorem toText {v : Value} {t : String} (h : r.Agree r' v.references)
    (made : v.toText r = .ok t) : v.toText r' = .ok t :=
  (Value.toText_congr v h).symm.trans made

theorem embedded {v w : Value} (h : r.Agree r' v.references) (made : v.embedded r = .ok w) :
    v.embedded r' = .ok w :=
  (Value.embedded_congr v h).symm.trans made

theorem toLiteral {v w : Value} (h : r.Agree r' v.references) (made : v.toLiteral r = .ok w) :
    v.toLiteral r' = .ok w ∧ r.Agree r' w.references :=
  ⟨(Value.toLiteral_congr v h).symm.trans made, h.mono (Value.references_toLiteral made)⟩

theorem render {v w : Value} (h : r.Agree r' v.references) (made : v.render r = .ok w) :
    v.render r' = .ok w ∧ r.Agree r' w.references :=
  ⟨(Value.render_congr v h).symm.trans made, h.mono (Value.references_render made)⟩

theorem toRaw {v w : Value} (h : r.Agree r' v.references) (made : v.toRaw r = .ok w) :
    v.toRaw r' = .ok w ∧ r.Agree r' w.references :=
  ⟨(Value.toRaw_congr v h).symm.trans made, h.mono (Value.references_toRaw made)⟩

end Resolver.Agree

namespace Builder

theorem joinTypeOf_eq_ok {v : Value} {t : JoinType} :
    joinTypeOf r v = .ok t ↔
      v.content?.bind (fun s => JoinType.ofWord? (Text.upper s)) = some t := by
  unfold joinTypeOf
  split
  · next found => simp [found, Outcome.pure_eq_ok]
  · next none =>
    simp only [none, reduceCtorEq, iff_false]
    intro h
    obtain ⟨u, -, h⟩ := Outcome.bind_eq_ok.mp h
    obtain ⟨s, -, h⟩ := Outcome.bind_eq_ok.mp h
    cases h

theorem listInside_agree {values inside : Value} (h : r.Agree r' values.references)
    (made : listInside r values = .ok inside) :
    listInside r' values = .ok inside ∧ r.Agree r' inside.references := by
  unfold listInside at made ⊢
  split at made
  · next id =>
    rw [← h.statement id (by simp [Value.references])]
    obtain ⟨t, -, same⟩ := Outcome.bind_eq_ok.mp made
    cases same
    exact ⟨made, .nil r r'⟩
  · split at made
    · next text =>
      cases made
      exact ⟨by simp [text], h⟩
    · next noText =>
      split at made
      · next items found =>
        have each : ∀ v ∈ items, v.toRaw r = v.toRaw r' := fun v hv =>
          Value.toRaw_congr v (h.mono (Value.references_items? found hv))
        simp only [noText, ← Outcome.mapM_congr each]
        refine ⟨made, ?_⟩
        obtain ⟨raws, -, joined⟩ := Outcome.bind_eq_ok.mp made
        obtain ⟨t, -, same⟩ := Outcome.bind_eq_ok.mp joined
        cases same
        exact .nil r r'
      · cases made

theorem joinTarget?_agree {target : Value} (h : r.Agree r' target.references) (subquery : Value) :
    joinTarget? r target subquery = joinTarget? r' target subquery := by
  have inside (source : Value) (part : source.references ⊆ target.references) :
      source.embedded r = source.embedded r' := Value.embedded_congr source (h.mono part)
  unfold joinTarget?
  split
  · next source aliasName isSubquery =>
    simp only [inside source (by simp [Value.references])]
  · dsimp only
    split
    · next found =>
      split at found
      · next source aliasName sequence =>
        cases found
        rw [inside _ (by simp [Value.references_sequence? sequence])]
      · cases found
    · rfl

theorem sortItems_agree {items : List Value} (h : r.Agree r' (items.flatMap Value.references)) :
    sortItems r items = sortItems r' items := by
  induction items with
  | nil => rfl
  | cons v rest ih =>
    obtain ⟨hv, hrest⟩ := Resolver.agree_append.mp h
    simp only [sortItems, Value.toSortItem?_congr v hv, ih hrest]

theorem references_joinTarget? {target subquery : Value} {t : Table}
    (h : joinTarget? r target subquery = .ok (some t)) :
    t.references ⊆ target.references ++ subquery.references := by
  unfold joinTarget? at h
  dsimp only at h
  split at h
  · next source aliasName wrapped parts =>
    obtain ⟨sql, embedded, h⟩ := Outcome.bind_eq_ok.mp h
    have inside := Value.references_embedded embedded
    have made : t = ⟨sql, aliasName, wrapped⟩ := by
      split at h <;> cases h
      rfl
    subst made
    split at parts
    · cases parts
      intro x hx
      simp only [Table.references, Value.references, List.mem_append] at hx ⊢
      grind
    · split at parts
      · next sequence =>
        cases parts
        intro x hx
        simp only [Table.references, Value.references_sequence? sequence, List.flatMap_cons,
          List.flatMap_nil, List.mem_append] at hx ⊢
        grind
      · cases parts
  · cases h

theorem references_sortItems {items : List Value} {sorted : List SortItem}
    (h : sortItems r items = .ok sorted) :
    (sorted.flatMap fun i => i.column.references ++ i.direction.references) ⊆
      items.flatMap Value.references := by
  induction items generalizing sorted with
  | nil =>
    cases h
    exact List.Subset.refl _
  | cons v rest ih =>
    obtain ⟨item, made, h⟩ := Outcome.bind_eq_ok.mp h
    cases item with
    | none => cases h
    | some item =>
      obtain ⟨later, sorted, h⟩ := Outcome.bind_eq_ok.mp h
      cases h
      simp only [List.flatMap_cons]
      exact List.append_subset.mpr
        ⟨List.subset_append_of_subset_left _ (Value.references_toSortItem? made),
          List.subset_append_of_subset_right _ (ih sorted)⟩

theorem references_columns {columns : List Value} {cs : List Column}
    (h : columns.mapM Value.toColumn? = some cs) :
    (cs.flatMap fun c => c.name.references ++ c.aliasName.references) ⊆
      columns.flatMap Value.references := by
  intro x hx
  obtain ⟨c, hc, hx⟩ := List.mem_flatMap.mp hx
  obtain ⟨v, hv, made⟩ := exists_of_mem_mapM h hc
  exact List.mem_flatMap.mpr ⟨v, hv, Value.references_toColumn? made hx⟩

/-- What an accepted call adds refers to nothing but its operands do. -/
theorem plan_references {ctx : Context} {b : Builder} {c : Call} {clause : Clause}
    (planned : b.plan ctx c = .ok (.append clause)) : clause.references ⊆ c.references := by
  cases c with
  | select columns =>
    obtain ⟨-, -, cs, made, same⟩ := planSelect_eq_ok.mp planned
    cases same
    exact references_columns made
  | source table aliasName =>
    obtain ⟨-, -, -, same⟩ := planSource_eq_ok.mp planned
    cases same
    have := Value.references_orNull aliasName
    intro x hx
    simp [Clause.references, Table.references, Call.references, Call.operands,
      Value.references] at hx ⊢
    grind
  | sourceQuery query aliasName =>
    obtain ⟨-, sql, embedded, -, -, -, same⟩ := planSourceQuery_eq_ok.mp planned
    cases same
    have := Value.references_embedded embedded
    intro x hx
    simp [Clause.references, Table.references, Call.references, Call.operands,
      Value.references] at hx ⊢
    grind
  | rows column =>
    obtain ⟨-, -, -, same⟩ := planRows_eq_ok.mp planned
    cases same
    simp [Clause.references, Call.references, Call.operands]
  | groups expression =>
    obtain ⟨-, -, same⟩ := planGroups_eq_ok.mp planned
    cases same
    simp [Clause.references, Call.references, Call.operands]
  | join joinType target on subquery =>
    obtain ⟨t, -, table, targeted, left, right, sequence, -, -, same⟩ := planJoin_eq_ok.mp planned
    cases same
    have := references_joinTarget? targeted
    have := Value.references_sequence? sequence
    intro x hx
    simp [Clause.references, Call.references, Call.operands] at hx ⊢
    grind
  | groupBy columns =>
    obtain ⟨-, -, same⟩ := planGroupBy_eq_ok.mp planned
    cases same
    exact List.Subset.refl _
  | orderBy items =>
    obtain ⟨-, sorted, made, same⟩ := planOrderBy_eq_ok.mp planned
    cases same
    exact references_sortItems made
  | paginate count offset =>
    obtain ⟨-, same⟩ := planPaginate_eq_ok.mp planned
    cases same
    simp [Clause.references, Call.references, Call.operands]
  | union all query =>
    obtain ⟨q, embedded, -, same⟩ := planUnion_eq_ok.mp planned
    cases same
    simpa [Clause.references, Call.references, Call.operands] using
      Value.references_embedded embedded
  | compare operator value =>
    obtain ⟨-, -, op, -, v, -, w, -, t, -, same⟩ := planCompare_eq_ok.mp planned
    cases same
  | differ value operator =>
    obtain ⟨-, -, planned⟩ := planDiffer_eq_ok.mp planned
    obtain ⟨-, -, op, -, v, -, w, -, t, -, same⟩ := planCompare_eq_ok.mp planned
    cases same
  | connect word column =>
    obtain ⟨-, -, -, t, -, same⟩ := planConnect_eq_ok.mp planned
    cases same
  | like negated pattern =>
    obtain ⟨-, -, v, -, t, -, same⟩ := planLike_eq_ok.mp planned
    cases same
  | between negated low high =>
    obtain ⟨-, v, -, l, -, w, -, t, -, same⟩ := planBetween_eq_ok.mp planned
    cases same
  | within negated values =>
    obtain ⟨-, inside, -, -, t, -, same⟩ := planWithin_eq_ok.mp planned
    cases same
  | isNull negated =>
    obtain ⟨-, same⟩ := planIsNull_eq_ok.mp planned
    cases same

end Builder

end SelectBuilder
