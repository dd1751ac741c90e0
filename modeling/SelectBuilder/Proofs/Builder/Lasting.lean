import SelectBuilder.Proofs.Builder.Agreement
import SelectBuilder.Proofs.Builder.Fitness

/-!
# Lasting calls

A call checks its operands when it is made, but not for what their texts will be. Some calls accept
operands that can never be written: names that are no texts, aliases without a text, directions that
are none. A call is lasting if the clause that it adds has a text.
-/
namespace SelectBuilder

open Outcome

theorem forall_mem_mapM {α β : Type} {f : α → Option β} {items : List α} {made : List β}
    (h : items.mapM f = some made) (P : β → Prop) :
    (∀ b ∈ made, P b) ↔ ∀ a ∈ items, ∀ b, f a = some b → P b := by
  induction items generalizing made with
  | nil =>
    cases h
    simp
  | cons a rest ih =>
    rw [List.mapM_cons] at h
    obtain ⟨b, first, h⟩ := Option.bind_eq_some_iff.mp h
    obtain ⟨bs, later, h⟩ := Option.bind_eq_some_iff.mp h
    cases h
    simp [ih later, first]

theorem Value.isTrue_orNull (v : Value) : v.orNull.isTrue = v.isTrue := by
  unfold orNull
  split
  · rfl
  · next empty =>
    rw [Bool.not_eq_true] at empty
    rw [empty]
    rfl

theorem Value.orNull_of_isTrue {v : Value} (h : v.isTrue) : v.orNull = v := if_pos h

theorem Clause.fits_congr {r r' : Resolver} {c : Clause} (h : r.Agree r' c.references) :
    c.Fits r ↔ c.Fits r' := by
  rw [← render_isOk, ← render_isOk, render_congr c h]

namespace Call

/-- The operands that the clause of a call is made of are such that it has a text. -/
def Lasting (r : Resolver) : Call → Prop
  | select columns => ∀ v ∈ columns, ∀ c, v.toColumn? = some c → c.Fits r
  | source table aliasName => Table.Fits r ⟨table, aliasName, .bool false⟩
  | sourceQuery query aliasName => Table.Fits r ⟨query, aliasName, .bool true⟩
  | rows column => column.isText
  | groups expression => expression.isText
  | orderBy items => ∀ v ∈ items, ∀ i, v.toSortItem? r = .ok (some i) → i.Fits r
  | paginate count offset => count.HasText r ∧ (offset.isNull ∨ offset.HasText r)
  | _ => True

end Call

namespace Builder

variable {ctx : Context} {b : Builder} {c : Call} {clause : Clause} {r : Resolver}

theorem forall_mem_sortItems {items : List Value} {sorted : List SortItem}
    (made : sortItems r items = .ok sorted) (P : SortItem → Prop) :
    (∀ i ∈ sorted, P i) ↔ ∀ v ∈ items, ∀ i, v.toSortItem? r = .ok (some i) → P i := by
  induction items generalizing sorted with
  | nil =>
    cases made
    simp
  | cons v rest ih =>
    obtain ⟨item, read, made⟩ := bind_eq_ok.mp made
    cases item with
    | none => cases made
    | some item =>
      obtain ⟨later, others, made⟩ := bind_eq_ok.mp made
      cases made
      simp [ih others, read]

/-- A target that is accepted has a text. -/
theorem joinTarget?_fits {target subquery : Value} {t : Table}
    (made : joinTarget? r target subquery = .ok (some t)) : t.Fits r := by
  unfold joinTarget? at made
  dsimp only at made
  split at made
  · obtain ⟨sql, -, made⟩ := bind_eq_ok.mp made
    split at made <;> cases made
    next named =>
    obtain ⟨source, aliasName⟩ := Bool.and_eq_true_iff.mp named
    exact ⟨Value.hasText_of_isText (Bool.and_eq_true_iff.mp source).1,
      fun _ => Value.hasText_of_isText (Bool.and_eq_true_iff.mp aliasName).1⟩
  · cases made

/-- The clause that a call adds has a text if and only if the call is lasting. Calls that take the
place of a statement by its text have no statement among their operands here. -/
theorem fits_iff_lasting (free : ∀ k, Reference.builder k ∉ c.references)
    (planned : b.plan ctx c = .ok (.append clause)) :
    clause.Fits ctx.resolver ↔ c.Lasting ctx.resolver := by
  cases c with
  | select columns =>
    obtain ⟨-, -, cs, made, same⟩ := planSelect_eq_ok.mp planned
    cases same
    exact forall_mem_mapM made _
  | source table aliasName =>
    obtain ⟨-, -, -, same⟩ := planSource_eq_ok.mp planned
    cases same
    simp only [Clause.Fits, Call.Lasting, Table.Fits, Value.isTrue_orNull]
    exact and_congr_right fun _ =>
      forall_congr' fun filled => by rw [Value.orNull_of_isTrue filled]
  | sourceQuery query aliasName =>
    obtain ⟨-, sql, embedded, -, -, -, same⟩ := planSourceQuery_eq_ok.mp planned
    cases same
    have whole : query = sql := by
      cases query with
      | reference x =>
        cases x with
        | builder id => exact absurd (by simp [Call.references, Call.operands]) (free id)
        | config id => exact Except.ok.inj embedded
      | _ => exact Except.ok.inj embedded
    rw [whole]
    rfl
  | rows column =>
    obtain ⟨-, -, -, same⟩ := planRows_eq_ok.mp planned
    cases same
    rfl
  | groups expression =>
    obtain ⟨-, -, same⟩ := planGroups_eq_ok.mp planned
    cases same
    rfl
  | join joinType target on subquery =>
    obtain ⟨t, -, table, targeted, left, right, -, hl, hr, same⟩ := planJoin_eq_ok.mp planned
    cases same
    have text {v : Value} (name : v.isName) : v.HasText ctx.resolver :=
      Value.hasText_of_isText (Bool.and_eq_true_iff.mp name).1
    exact iff_of_true ⟨joinTarget?_fits targeted, text hl, text hr⟩ trivial
  | groupBy columns =>
    obtain ⟨-, names, same⟩ := planGroupBy_eq_ok.mp planned
    cases same
    exact iff_of_true (fun v hv => (Bool.and_eq_true_iff.mp (names v hv)).1) trivial
  | orderBy items =>
    obtain ⟨-, sorted, made, same⟩ := planOrderBy_eq_ok.mp planned
    cases same
    exact forall_mem_sortItems made _
  | paginate count offset =>
    obtain ⟨-, same⟩ := planPaginate_eq_ok.mp planned
    cases same
    rfl
  | union all query =>
    obtain ⟨q, -, name, same⟩ := planUnion_eq_ok.mp planned
    cases same
    exact iff_of_true (Value.hasText_of_isText (Bool.and_eq_true_iff.mp name).1) trivial
  | _ =>
    rcases plan_change planned with ⟨kind, op, part, -, same⟩ | ⟨clause, none, -⟩
    · cases same
    · cases none

/-- An operator adds no clause, so it is lasting. -/
theorem lasting_of_extend {op part : String} {stage : Stage}
    (planned : b.plan ctx c = .ok (.extend op part stage)) : c.Lasting ctx.resolver := by
  rcases plan_change planned with ⟨kind, op, part, operator, -⟩ | ⟨clause, -, same, -⟩
  · cases c <;> trivial
  · cases same

end Builder

end SelectBuilder
