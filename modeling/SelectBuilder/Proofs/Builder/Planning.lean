import SelectBuilder.Proofs.Outcome
import SelectBuilder.Builder.Call

/-!
# Accepted calls

When the plan of a call succeeds, and what change it then is: one equivalence for every kind of
call. Later modules read calls off these and do not look into the plans again.
-/
namespace SelectBuilder

open Outcome

theorem misuse_eq_ok {α : Type} {cause : Misuse} {a : α} :
    (misuse cause : Outcome α) = .ok a ↔ False := ⟨nofun, nofun⟩

theorem if_misuse_eq_ok {α : Type} {p : Prop} [Decidable p] {cause : Misuse} {x : Outcome α}
    {a : α} : (if p then misuse cause else x) = .ok a ↔ ¬p ∧ x = .ok a := by
  split <;> simp_all [misuse_eq_ok]

theorem if_else_misuse_eq_ok {α : Type} {p : Prop} [Decidable p] {cause : Misuse} {x : Outcome α}
    {a : α} : (if p then x else misuse cause) = .ok a ↔ p ∧ x = .ok a := by
  split <;> simp_all [misuse_eq_ok]

namespace Builder

theorem requireSelect_eq_ok {b : Builder} {clause : String} {u : Unit} :
    b.requireSelect clause = .ok u ↔ b.slots.select.isSome := by
  unfold requireSelect
  split <;> simp_all [misuse_eq_ok]

theorem requireCondition_eq_ok {r : Resolver} {b : Builder} {operator : Value} {c : Clause} :
    b.requireCondition r operator = .ok c ↔ b.current? = some c := by
  unfold requireCondition
  split <;> simp_all [bind_eq_ok, misuse_eq_ok]

theorem discard_eq_ok {α : Type} {x : Outcome α} {u : PUnit} :
    discard x = .ok u ↔ ∃ a, x = .ok a := by
  cases x <;> simp [discard, Functor.mapConst, Except.map]

theorem planSelect_eq_ok {b : Builder} {columns : List Value} {change : Change} :
    b.planSelect columns = .ok change ↔
      b.slots.select = none ∧ columns ≠ [] ∧
        ∃ cs, columns.mapM Value.toColumn? = some cs ∧ .append (.select cs) = change := by
  unfold planSelect
  simp only [if_misuse_eq_ok]
  split <;> simp_all [misuse_eq_ok]

theorem checkSource_eq_ok {b : Builder} {source : Value} {u : Unit} :
    b.checkSource source = .ok u ↔
      b.slots.select.isSome ∧ source.isTrue ∧ b.slots.source = none := by
  simp [checkSource, bind_eq_ok, if_misuse_eq_ok, requireSelect_eq_ok, pure_eq_ok]

theorem planSource_eq_ok {b : Builder} {table aliasName : Value} {change : Change} :
    b.planSource table aliasName = .ok change ↔
      b.slots.select.isSome ∧ table.isTrue ∧ b.slots.source = none ∧
        .append (.source ⟨table, aliasName.orNull, .bool false⟩) = change := by
  simp [planSource, fmap_eq_ok, checkSource_eq_ok, and_assoc]

theorem planSourceQuery_eq_ok {r : Resolver} {b : Builder} {query aliasName : Value}
    {change : Change} :
    b.planSourceQuery r query aliasName = .ok change ↔
      aliasName.isTrue ∧ ∃ sql, query.embedded r = .ok sql ∧ b.slots.select.isSome ∧
        sql.isTrue ∧ b.slots.source = none ∧
        .append (.source ⟨sql, aliasName, .bool true⟩) = change := by
  simp [planSourceQuery, if_misuse_eq_ok, bind_eq_ok, fmap_eq_ok, checkSource_eq_ok, and_assoc]

theorem planRows_eq_ok {b : Builder} {column : Value} {change : Change} :
    b.planRows column = .ok change ↔
      b.slots.select.isSome ∧ column.isTrue ∧ b.slots.rows = none ∧
        .append (.condition .rows column []) = change := by
  simp [planRows, bind_eq_ok, requireSelect_eq_ok, if_misuse_eq_ok, pure_eq_ok]

theorem planGroups_eq_ok {b : Builder} {expression : Value} {change : Change} :
    b.planGroups expression = .ok change ↔
      expression.isTrue ∧ b.slots.groups = none ∧
        .append (.condition .groups expression []) = change := by
  simp [planGroups, if_misuse_eq_ok]

theorem discard_requireCondition_eq_ok {r : Resolver} {b : Builder} {operator : Value} {u : PUnit} :
    discard (b.requireCondition r operator) = .ok u ↔ b.current?.isSome := by
  simp [discard_eq_ok, requireCondition_eq_ok, Option.isSome_iff_exists]

theorem planCompare_eq_ok {r : Resolver} {b : Builder} {operator value : Value}
    {change : Change} :
    b.planCompare r operator value = .ok change ↔
      b.current?.isSome ∧ operator.isOneOf comparisonOperators = .ok true ∧
        ∃ op, operator.toText r = .ok op ∧ ∃ v, value.toLiteral r = .ok v ∧
          ∃ w, v.render r = .ok w ∧ ∃ t, w.toText r = .ok t ∧
            .extend op (op ++ " " ++ t) .complete = change := by
  simp only [planCompare, bind_eq_ok, discard_requireCondition_eq_ok, exists_const, pure_eq_ok,
    if_else_misuse_eq_ok]
  constructor
  · rintro ⟨current, known, isOne, op, text, rfl, h⟩
    exact ⟨current, isOne, op, text, h⟩
  · rintro ⟨current, isOne, op, text, h⟩
    exact ⟨current, true, isOne, op, text, rfl, h⟩

theorem planDiffer_eq_ok {r : Resolver} {b : Builder} {value operator : Value}
    {change : Change} :
    b.planDiffer r value operator = .ok change ↔
      b.current?.isSome ∧ operator.isOneOf inequalityOperators = .ok true ∧
        b.planCompare r operator value = .ok change := by
  simp only [planDiffer, bind_eq_ok, discard_requireCondition_eq_ok, exists_const]
  constructor
  · rintro ⟨current, known, isOne, h⟩
    cases known
    · obtain ⟨op, -, h⟩ := bind_eq_ok.mp h
      cases h
    · exact ⟨current, isOne, h⟩
  · rintro ⟨current, isOne, h⟩
    exact ⟨current, true, isOne, h⟩

theorem planConnect_eq_ok {r : Resolver} {b : Builder} {word : Connective} {column : Value}
    {change : Change} :
    b.planConnect r word column = .ok change ↔
      b.current?.isSome ∧ column.isTrue ∧ b.stage = .complete ∧
        ∃ t, column.toText r = .ok t ∧
          .extend word.word (word.word ++ " " ++ t) .pending = change := by
  simp only [planConnect, bind_eq_ok, requireCondition_eq_ok, if_misuse_eq_ok]
  constructor
  · rintro ⟨c, current, filled, h⟩
    split at h
    · obtain ⟨t, -, h⟩ := bind_eq_ok.mp h
      cases h
    · simp_all [fmap_eq_ok]
  · rintro ⟨current, filled, complete, h⟩
    obtain ⟨c, hc⟩ := Option.isSome_iff_exists.mp current
    refine ⟨c, hc, by simpa using filled, ?_⟩
    simpa [complete, fmap_eq_ok] using h

theorem planLike_eq_ok {r : Resolver} {b : Builder} {negated : Bool} {pattern : Value}
    {change : Change} :
    b.planLike r negated pattern = .ok change ↔
      b.current?.isSome ∧ pattern.isTrue ∧
        ∃ v, (Value.quoted pattern).render r = .ok v ∧ ∃ t, v.toText r = .ok t ∧
          .extend (negatable negated "LIKE") (negatable negated "LIKE" ++ " " ++ t) .complete =
            change := by
  simp [planLike, bind_eq_ok, discard_requireCondition_eq_ok, if_misuse_eq_ok, fmap_eq_ok]

theorem planBetween_eq_ok {r : Resolver} {b : Builder} {negated : Bool} {low high : Value}
    {change : Change} :
    b.planBetween r negated low high = .ok change ↔
      b.current?.isSome ∧ ∃ v, low.toRaw r = .ok v ∧ ∃ l, v.toText r = .ok l ∧
        ∃ w, high.toRaw r = .ok w ∧ ∃ h, w.toText r = .ok h ∧
          .extend (negatable negated "BETWEEN")
            (negatable negated "BETWEEN" ++ " " ++ l ++ " AND " ++ h) .complete = change := by
  simp [planBetween, bind_eq_ok, fmap_eq_ok, discard_requireCondition_eq_ok]

theorem planWithin_eq_ok {r : Resolver} {b : Builder} {negated : Bool} {values : Value}
    {change : Change} :
    b.planWithin r negated values = .ok change ↔
      b.current?.isSome ∧ ∃ inside, listInside r values = .ok inside ∧ inside.isTrue ∧
        ∃ t, inside.toText r = .ok t ∧
          .extend (negatable negated "IN") (negatable negated "IN" ++ " (" ++ t ++ ")") .complete =
            change := by
  simp [planWithin, bind_eq_ok, fmap_eq_ok, discard_requireCondition_eq_ok, if_misuse_eq_ok]

theorem planIsNull_eq_ok {r : Resolver} {b : Builder} {negated : Bool} {change : Change} :
    b.planIsNull r negated = .ok change ↔
      b.current?.isSome ∧
        .extend (if negated then "IS NOT NULL" else "IS NULL")
          (if negated then "IS NOT NULL" else "IS NULL") .complete = change := by
  simp [planIsNull, fmap_eq_ok, discard_requireCondition_eq_ok]

theorem planJoin_eq_ok {r : Resolver} {joinType target on subquery : Value} {change : Change} :
    planJoin r joinType target on subquery = .ok change ↔
      ∃ t, joinTypeOf r joinType = .ok t ∧
        ∃ table, joinTarget? r target subquery = .ok (some table) ∧
        ∃ left right, on.sequence? = some [left, right] ∧ left.isName ∧ right.isName ∧
          .append (.join t table left right) = change := by
  simp only [planJoin, bind_eq_ok]
  constructor
  · rintro ⟨t, ht, table?, htable, h⟩
    split at h
    · next table left right hs =>
      simp only [if_else_misuse_eq_ok, pure_eq_ok, Bool.and_eq_true] at h
      exact ⟨t, ht, table, htable, left, right, hs, h.1.1, h.1.2, h.2⟩
    · cases h
  · rintro ⟨t, ht, table, htable, left, right, hs, hl, hr, rfl⟩
    refine ⟨t, ht, some table, htable, ?_⟩
    rw [hs]
    simp [hl, hr, pure_eq_ok]

theorem planGroupBy_eq_ok {columns : List Value} {change : Change} :
    planGroupBy columns = .ok change ↔
      columns ≠ [] ∧ (∀ v ∈ columns, v.isName) ∧ .append (.groupBy columns) = change := by
  simp [planGroupBy, if_else_misuse_eq_ok, and_assoc]

theorem planOrderBy_eq_ok {r : Resolver} {items : List Value} {change : Change} :
    planOrderBy r items = .ok change ↔
      items ≠ [] ∧ ∃ sorted, sortItems r items = .ok sorted ∧
        .append (.orderBy sorted) = change := by
  simp [planOrderBy, if_misuse_eq_ok, fmap_eq_ok]

theorem planPaginate_eq_ok {ctx : Context} {count offset : Value} {change : Change} :
    planPaginate ctx count offset = .ok change ↔
      (ctx.checksPagination → isCount count ∧ (offset.isNull ∨ isCount offset)) ∧
        .append (.limit count offset) = change := by
  have valid : (ctx.checksPagination → isCount count ∧ (offset.isNull ∨ isCount offset)) ↔
      ¬(ctx.checksPagination && !(isCount count && (offset.isNull || isCount offset))) := by
    cases ctx.checksPagination <;> cases isCount count <;> cases offset.isNull <;>
      cases isCount offset <;> decide
  rw [valid]
  unfold planPaginate
  split
  · next refused =>
    simp only [refused, bind_eq_ok, misuse_eq_ok, and_false, exists_false, not_true_eq_false,
      false_and]
  · next accepted => exact ⟨fun h => ⟨accepted, Except.ok.inj h⟩, fun h => congrArg _ h.2⟩

theorem planUnion_eq_ok {r : Resolver} {all : Bool} {query : Value} {change : Change} :
    planUnion r all query = .ok change ↔
      ∃ q, query.embedded r = .ok q ∧ q.isName ∧ .append (.union all q) = change := by
  simp [planUnion, bind_eq_ok, if_else_misuse_eq_ok, pure_eq_ok]

end Builder
end SelectBuilder
