import SelectBuilder.Proofs.Builder.Agreement
import SelectBuilder.Proofs.Builder.Operators

/-!
# Builders that answer alike

The answer to a call, be it a change or a failure, depends on a builder through little: for a clause
on the places that are noted, for an operator on the stage and on what the condition under the
cursor shows. On the resolver it depends through the references among the operands alone.
-/
namespace SelectBuilder

variable {r r' : Resolver}

theorem Resolver.Agree.refl (r : Resolver) (refs : List Reference) : r.Agree r refs :=
  ⟨fun _ _ => rfl, fun _ _ => rfl⟩

theorem Outcome.bind_congr {α β : Type} {x y : Outcome α} {f g : α → Outcome β} (same : x = y)
    (h : ∀ a, x = .ok a → f a = g a) : x >>= f = y >>= g := by
  subst same
  cases x with
  | ok a => exact h a rfl
  | error e => rfl

namespace Builder

open Outcome

theorem refuseMember_congr {v : Value} (h : r.Agree r' v.references) :
    refuseMember r v = refuseMember r' v := by
  unfold refuseMember
  rw [Value.quotedForm_congr v h.quoted]

theorem joinTypeOf_congr {v : Value} (h : r.Agree r' v.references) :
    joinTypeOf r v = joinTypeOf r' v := by
  unfold joinTypeOf
  rw [refuseMember_congr h, Value.toText_congr v h]

theorem listInside_congr {v : Value} (h : r.Agree r' v.references) :
    listInside r v = listInside r' v := by
  unfold listInside
  split
  · rw [h.statement _ (by simp [Value.references])]
  · split
    · rfl
    · split
      · next items found =>
        rw [Outcome.mapM_congr fun item among =>
          Value.toRaw_congr item (h.mono (Value.references_items? found among))]
      · rfl

theorem literalText_congr {v : Value} (h : r.Agree r' v.references) {β : Type}
    (f : String → Outcome β) :
    (v.toLiteral r >>= fun l => l.render r >>= fun w => w.toText r >>= f) =
      v.toLiteral r' >>= fun l => l.render r' >>= fun w => w.toText r' >>= f := by
  refine bind_congr (Value.toLiteral_congr v h) fun l literal => ?_
  have hl := h.mono (Value.references_toLiteral literal)
  refine bind_congr (Value.render_congr l hl) fun w rendered => ?_
  rw [Value.toText_congr w (hl.mono (Value.references_render rendered))]

theorem rawText_congr {v : Value} (h : r.Agree r' v.references) {β : Type}
    {f g : String → Outcome β} (same : ∀ t, f t = g t) :
    (v.toRaw r >>= fun w => w.toText r >>= f) = v.toRaw r' >>= fun w => w.toText r' >>= g := by
  refine bind_congr (Value.toRaw_congr v h) fun w raw => ?_
  exact bind_congr (Value.toText_congr w (h.mono (Value.references_toRaw raw))) fun t _ => same t

variable {ctx ctx' : Context} {b d : Builder} {c : Call}

/-- A call for a clause looks at the noted places of the builder alone. -/
theorem plan_clause_congr (clause : c.operator? = none) (slots : d.slots = b.slots)
    (agree : ctx.resolver.Agree ctx'.resolver c.references)
    (checks : ctx'.checksPagination = ctx.checksPagination) : b.plan ctx c = d.plan ctx' c := by
  have operand (v : Value) (hv : v ∈ c.operands) : ctx.resolver.Agree ctx'.resolver v.references :=
    Resolver.agree_flatMap.mp agree v hv
  cases c with
  | select columns => simp only [plan, planSelect, slots]
  | source table aliasName => simp only [plan, planSource, checkSource, requireSelect, slots]
  | sourceQuery query aliasName =>
    have embedded := Value.embedded_congr query (operand query (by simp [Call.operands]))
    simp only [plan, planSourceQuery, checkSource, requireSelect, slots, embedded]
  | rows column => simp only [plan, planRows, requireSelect, slots]
  | groups expression => simp only [plan, planGroups, slots]
  | join joinType target on subquery =>
    have type := joinTypeOf_congr (operand joinType (by simp [Call.operands]))
    have targeted := joinTarget?_agree (operand target (by simp [Call.operands])) subquery
    simp only [plan, planJoin, type, targeted]
  | groupBy columns => rfl
  | orderBy items =>
    have sorted : sortItems ctx.resolver items = sortItems ctx'.resolver items :=
      sortItems_agree agree
    simp only [plan, planOrderBy, sorted]
  | paginate count offset =>
    have counted := Value.quotedForm_congr count (operand count (by simp [Call.operands])).quoted
    have shifted := Value.quotedForm_congr offset (operand offset (by simp [Call.operands])).quoted
    simp only [plan, planPaginate, checks, counted, shifted]
  | union all query =>
    have embedded := Value.embedded_congr query (operand query (by simp [Call.operands]))
    simp only [plan, planUnion, embedded]
  | _ => cases clause

/-- Two builders have like conditions under their cursors, or none. -/
def LikeConditions (r r' : Resolver) (b d : Builder) : Prop :=
  d.current?.map (Clause.render r') = b.current?.map (Clause.render r)

theorem LikeConditions.require {operator : Value} (h : b.LikeConditions r r' d)
    (agree : r.Agree r' operator.references) :
    (b.requireCondition r operator).map (Clause.render r) =
      (d.requireCondition r' operator).map (Clause.render r') := by
  unfold LikeConditions at h
  unfold requireCondition
  rw [Value.toText_congr operator agree]
  cases hb : b.current? <;> cases hd : d.current? <;> simp_all [Except.map]
  · cases operator.toText r' <;> rfl

/-- What comes after a condition is required may use what the condition shows. -/
theorem LikeConditions.bind {operator : Value} (h : b.LikeConditions r r' d)
    (agree : r.Agree r' operator.references) {β : Type} {f g : Clause → Outcome β}
    (same : ∀ c c', c.render r = c'.render r' → f c = g c') :
    b.requireCondition r operator >>= f = d.requireCondition r' operator >>= g := by
  have required := h.require agree
  cases hb : b.requireCondition r operator <;> cases hd : d.requireCondition r' operator <;>
    simp_all [Except.map]
  · next c c' => exact same c c' required

theorem LikeConditions.discard {operator : Value} (h : b.LikeConditions r r' d)
    (agree : r.Agree r' operator.references) {β : Type} {f g : PUnit → Outcome β}
    (same : f ⟨⟩ = g ⟨⟩) :
    (discard (b.requireCondition r operator) >>= f) =
      discard (d.requireCondition r' operator) >>= g := by
  have required := h.bind agree (f := fun _ => f ⟨⟩) (g := fun _ => g ⟨⟩) fun _ _ _ => same
  cases hb : b.requireCondition r operator <;> cases hd : d.requireCondition r' operator <;>
    simp_all [Functor.discard, Functor.mapConst, Except.map]

theorem planCompare_congr {operator value : Value} (like : b.LikeConditions r r' d)
    (ho : r.Agree r' operator.references) (hv : r.Agree r' value.references) :
    b.planCompare r operator value = d.planCompare r' operator value := by
  refine like.discard ho ?_
  refine bind_congr rfl fun known _ => ?_
  refine bind_congr (Value.toText_congr operator ho) fun op _ => ?_
  cases known with
  | false => rfl
  | true => exact literalText_congr hv _

/-- An operator looks at the stage of the builder and at the condition under the cursor. -/
theorem plan_operator_congr {kind : OperatorKind} (operator : c.operator? = some kind)
    (stage : d.stage = b.stage) (like : b.LikeConditions ctx.resolver ctx'.resolver d)
    (agree : ctx.resolver.Agree ctx'.resolver c.references) : b.plan ctx c = d.plan ctx' c := by
  have operand (v : Value) (hv : v ∈ c.operands) : ctx.resolver.Agree ctx'.resolver v.references :=
    Resolver.agree_flatMap.mp agree v hv
  have word (w : String) : ctx.resolver.Agree ctx'.resolver (Value.text w).references :=
    .nil ctx.resolver ctx'.resolver
  cases c with
  | compare op value =>
    exact planCompare_congr like (operand op (by simp [Call.operands]))
      (operand value (by simp [Call.operands]))
  | differ value op =>
    have ho := operand op (by simp [Call.operands])
    refine like.discard ho ?_
    refine bind_congr rfl fun known _ => ?_
    cases known with
    | false => exact bind_congr (Value.toText_congr op ho) fun _ _ => rfl
    | true => exact planCompare_congr like ho (operand value (by simp [Call.operands]))
  | connect w column =>
    have text := Value.toText_congr column (operand column (by simp [Call.operands]))
    refine like.bind (word w.word) fun c c' shown => ?_
    simp only [stage, shown, text]
  | like negated pattern =>
    have text := Value.toText_congr pattern (operand pattern (by simp [Call.operands]))
    refine like.discard (word _) ?_
    split
    · rfl
    · refine bind_congr (by simp only [Value.render, text]) fun v rendered => ?_
      obtain ⟨s, -, made⟩ := bind_eq_ok.mp rendered
      cases made
      rfl
  | between negated low high =>
    refine like.discard (word _) ?_
    refine rawText_congr (operand low (by simp [Call.operands])) fun l => ?_
    exact rawText_congr (operand high (by simp [Call.operands])) fun _ => rfl
  | within negated values =>
    have hv := operand values (by simp [Call.operands])
    refine like.discard (word _) ?_
    refine bind_congr (listInside_congr hv) fun inside listed => ?_
    rw [Value.toText_congr inside (listInside_agree hv listed).2]
  | isNull negated => exact like.discard (word _) rfl
  | _ => cases operator

/-- The answer of one builder under two resolvers that agree on what it shows. -/
theorem plan_congr (agree : ctx.resolver.Agree ctx'.resolver c.references)
    (current : ∀ condition ∈ b.current?, ctx.resolver.Agree ctx'.resolver condition.references)
    (checks : ctx'.checksPagination = ctx.checksPagination) : b.plan ctx c = b.plan ctx' c := by
  cases operator : c.operator? with
  | none => exact plan_clause_congr operator rfl agree checks
  | some kind =>
    refine plan_operator_congr operator rfl ?_ agree
    unfold LikeConditions
    cases found : b.current? with
    | none => rfl
    | some condition => exact congrArg some (condition.render_congr (current _ found)).symm

end Builder

end SelectBuilder
