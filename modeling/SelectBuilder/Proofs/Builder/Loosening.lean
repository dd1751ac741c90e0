import SelectBuilder.Proofs.Builder.Agreement
import SelectBuilder.Proofs.Builder.Consistency

/-!
# Looser settings

Under looser settings a builder may keep a cursor that a stricter one has given up. Nothing that the
stricter builder accepts tells the two apart.
-/
namespace SelectBuilder

namespace Builder

/-- A builder that differs from another one at most in a cursor which the other has given up. -/
structure Loosens (loose b : Builder) : Prop where
  clauses : loose.clauses = b.clauses
  slots : loose.slots = b.slots
  cursor : b.cursor = none ∧ b.stage = .absent ∨ loose.cursor = b.cursor ∧ loose.stage = b.stage

theorem Loosens.fresh (config config' : Nat) :
    Loosens { config := config' } { config := config } := ⟨rfl, rfl, .inr ⟨rfl, rfl⟩⟩

theorem Loosens.stage {loose b : Builder} (h : loose.Loosens b) (present : b.stage ≠ .absent) :
    loose.stage = b.stage := by
  rcases h.cursor with ⟨-, absent⟩ | ⟨-, same⟩
  · exact absurd absent present
  · exact same

theorem Loosens.current {loose b : Builder} (h : loose.Loosens b) (current : b.current?.isSome) :
    loose.cursor = b.cursor ∧ loose.stage = b.stage ∧ loose.current?.isSome := by
  rcases h.cursor with ⟨none, -⟩ | ⟨cursor, stage⟩
  · simp [current?, none] at current
  · refine ⟨cursor, stage, ?_⟩
    rwa [current?, cursor, h.clauses]

theorem planCompare_loosens {loose b : Builder} {r r' : Resolver} {operator value : Value}
    {change : Change} (h : loose.Loosens b) (ho : r.Agree r' operator.references)
    (hv : r.Agree r' value.references) (planned : b.planCompare r operator value = .ok change) :
    loose.planCompare r' operator value = .ok change := by
  obtain ⟨current, known, op, word, v, literal, w, rendered, t, text, made⟩ :=
    planCompare_eq_ok.mp planned
  obtain ⟨literal', hl⟩ := hv.toLiteral literal
  obtain ⟨rendered', hw⟩ := hl.render rendered
  exact planCompare_eq_ok.mpr ⟨(h.current current).2.2, known, op, ho.toText word, v, literal', w,
    rendered', t, hw.toText text, made⟩

/-- The looser builder accepts what the other one does, and makes the same change. -/
theorem plan_loosens {loose b : Builder} {ctx ctx' : Context} {c : Call} {change : Change}
    (h : loose.Loosens b) (agree : ctx.resolver.Agree ctx'.resolver c.references)
    (lax : ctx'.checksPagination → ctx.checksPagination) (planned : b.plan ctx c = .ok change) :
    loose.plan ctx' c = .ok change := by
  have operand (v : Value) (hv : v ∈ c.operands) : ctx.resolver.Agree ctx'.resolver v.references :=
    Resolver.agree_flatMap.mp agree v hv
  cases c with
  | select columns =>
    obtain ⟨free, some, cs, columns, made⟩ := planSelect_eq_ok.mp planned
    exact planSelect_eq_ok.mpr ⟨h.slots ▸ free, some, cs, columns, made⟩
  | source table aliasName =>
    obtain ⟨select, table, free, made⟩ := planSource_eq_ok.mp planned
    exact planSource_eq_ok.mpr ⟨h.slots ▸ select, table, h.slots ▸ free, made⟩
  | sourceQuery query aliasName =>
    obtain ⟨named, sql, embedded, select, filled, free, made⟩ := planSourceQuery_eq_ok.mp planned
    have embedded' := (operand query (by simp [Call.operands])).embedded embedded
    exact planSourceQuery_eq_ok.mpr
      ⟨named, sql, embedded', h.slots ▸ select, filled, h.slots ▸ free, made⟩
  | rows column =>
    obtain ⟨select, filled, free, made⟩ := planRows_eq_ok.mp planned
    exact planRows_eq_ok.mpr ⟨h.slots ▸ select, filled, h.slots ▸ free, made⟩
  | groups expression =>
    obtain ⟨filled, free, made⟩ := planGroups_eq_ok.mp planned
    exact planGroups_eq_ok.mpr ⟨filled, h.slots ▸ free, made⟩
  | compare operator value =>
    exact planCompare_loosens h (operand operator (by simp [Call.operands]))
      (operand value (by simp [Call.operands])) planned
  | differ value operator =>
    obtain ⟨current, known, planned⟩ := planDiffer_eq_ok.mp planned
    have compared := planCompare_loosens h (operand operator (by simp [Call.operands]))
      (operand value (by simp [Call.operands])) planned
    exact planDiffer_eq_ok.mpr ⟨(h.current current).2.2, known, compared⟩
  | connect word column =>
    obtain ⟨current, filled, complete, t, text, made⟩ := planConnect_eq_ok.mp planned
    obtain ⟨-, stage, current'⟩ := h.current current
    have text' := (operand column (by simp [Call.operands])).toText text
    exact planConnect_eq_ok.mpr ⟨current', filled, stage.trans complete, t, text', made⟩
  | like negated pattern =>
    obtain ⟨current, filled, v, rendered, t, text, made⟩ := planLike_eq_ok.mp planned
    obtain ⟨rendered', hv⟩ := Resolver.Agree.render (v := .quoted pattern)
      (operand pattern (by simp [Call.operands])) rendered
    exact planLike_eq_ok.mpr
      ⟨(h.current current).2.2, filled, v, rendered', t, hv.toText text, made⟩
  | between negated low high =>
    obtain ⟨current, v, lowRaw, l, lowText, w, highRaw, u, highText, made⟩ :=
      planBetween_eq_ok.mp planned
    obtain ⟨lowRaw', hv⟩ := (operand low (by simp [Call.operands])).toRaw lowRaw
    obtain ⟨highRaw', hw⟩ := (operand high (by simp [Call.operands])).toRaw highRaw
    exact planBetween_eq_ok.mpr ⟨(h.current current).2.2, v, lowRaw', l, hv.toText lowText, w,
      highRaw', u, hw.toText highText, made⟩
  | within negated values =>
    obtain ⟨current, inside, listed, filled, t, text, made⟩ := planWithin_eq_ok.mp planned
    obtain ⟨listed', hi⟩ := listInside_agree (operand values (by simp [Call.operands])) listed
    exact planWithin_eq_ok.mpr
      ⟨(h.current current).2.2, inside, listed', filled, t, hi.toText text, made⟩
  | isNull negated =>
    obtain ⟨current, made⟩ := planIsNull_eq_ok.mp planned
    exact planIsNull_eq_ok.mpr ⟨(h.current current).2.2, made⟩
  | join joinType target on subquery =>
    obtain ⟨t, type, table, targeted, rest⟩ := planJoin_eq_ok.mp planned
    rw [joinTarget?_agree (operand target (by simp [Call.operands]))] at targeted
    exact planJoin_eq_ok.mpr
      ⟨t, joinTypeOf_eq_ok.mpr (joinTypeOf_eq_ok.mp type), table, targeted, rest⟩
  | groupBy columns => exact planned
  | orderBy items =>
    obtain ⟨some, sorted, items, made⟩ := planOrderBy_eq_ok.mp planned
    exact planOrderBy_eq_ok.mpr ⟨some, sorted, (sortItems_agree agree).symm.trans items, made⟩
  | paginate count offset =>
    obtain ⟨valid, made⟩ := planPaginate_eq_ok.mp planned
    exact planPaginate_eq_ok.mpr ⟨fun checks => valid (lax checks), made⟩
  | union all query =>
    obtain ⟨q, embedded, name, made⟩ := planUnion_eq_ok.mp planned
    have embedded' := (operand query (by simp [Call.operands])).embedded embedded
    exact planUnion_eq_ok.mpr ⟨q, embedded', name, made⟩

/-- A change that the stricter builder has accepted keeps the other one looser. -/
theorem apply_loosens {loose b : Builder} {strict strict' : Bool} {change : Change}
    (h : loose.Loosens b) (lax : strict' → strict) (admits : b.Admits change) :
    (loose.apply strict' change).Loosens (b.apply strict change) := by
  cases change with
  | append c =>
    refine ⟨?_, ?_, ?_⟩
    · simp [apply, enter, settle, h.clauses]
    · simp [apply, enter, settle, h.clauses, h.slots]
    · simp only [apply, enter, settle, append, h.clauses]
      cases c.isCondition with
      | true => exact .inr ⟨rfl, rfl⟩
      | false =>
        cases strict with
        | true => exact .inl ⟨rfl, rfl⟩
        | false =>
          cases strict' with
          | true => exact absurd (lax rfl) (by decide)
          | false => exact h.cursor
  | extend op part stage =>
    obtain ⟨cursor, -, -⟩ := h.current admits.1
    simp only [apply, enter, settle, extend, cursor]
    split
    · exact ⟨by rw [h.clauses], h.slots, .inr ⟨rfl, rfl⟩⟩
    · exact h

/-- The references that the clauses of a builder keep. -/
def references (b : Builder) : List Reference := b.clauses.flatMap Clause.references

theorem references_apply_append (strict : Bool) (b : Builder) (clause : Clause) :
    (b.apply strict (.append clause)).references = b.references ++ clause.references := by
  simp [references, apply, enter, settle]

theorem references_apply_extend (strict : Bool) (b : Builder) (op part : String) (stage : Stage) :
    (b.apply strict (.extend op part stage)).references = b.references := by
  have same (part : String) (c : Clause) : (c.extend part).references = c.references := by
    cases c <;> rfl
  simp only [references, List.flatMap_def]
  exact congrArg List.flatten (map_extend same b part stage)

/-- A builder comes to refer to nothing but what its calls refer to. -/
theorem references_apply {ctx : Context} {b : Builder} {c : Call} {change : Change}
    (planned : b.plan ctx c = .ok change) (strict : Bool) :
    (b.apply strict change).references ⊆ b.references ++ c.references := by
  cases change with
  | append clause =>
    rw [references_apply_append]
    exact List.append_subset.mpr ⟨List.subset_append_left ..,
      List.subset_append_of_subset_right _ (plan_references planned)⟩
  | extend op part stage =>
    rw [references_apply_extend]
    exact List.subset_append_left ..

end Builder

end SelectBuilder
