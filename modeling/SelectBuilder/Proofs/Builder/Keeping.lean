import SelectBuilder.Proofs.Builder.Embedding
import SelectBuilder.Proofs.Builder.Legibility
import SelectBuilder.Proofs.Builder.Loosening
import SelectBuilder.Proofs.Builder.Operators
import SelectBuilder.Proofs.Lists

/-!
# Calls that keep statements

A call may keep a statement as a table, an alias or a bound of a page. It is accepted whichever
statement that is, and nothing of the statement is looked at. A call that takes the text of a
statement instead is refused if there is none.
-/
namespace SelectBuilder

open Outcome

/-- A column to be selected is a name, or a name with a piece as its alias. -/
def Value.NamesPiece : Value → Prop
  | column _ _ => False
  | v => ∀ n a, v.sequence? = some [n, a] → a.IsPiece

namespace Call

/-- Where a call may keep a statement it has a piece, and a condition begins with a text. -/
def Legible : Call → Prop
  | select columns => ∀ v ∈ columns, v.NamesPiece
  | source table aliasName => table.IsPiece ∧ aliasName.IsPiece
  | sourceQuery query aliasName => query.IsPiece ∧ aliasName.IsPiece
  | rows column => column.isText
  | groups expression => expression.isText
  | join _ target _ subquery =>
    subquery.references = [] ∧ ∀ s a q, target = .table s a q → q.references = []
  | orderBy items => ∀ v ∈ items, ∀ c d, v ≠ .order c d
  | paginate count offset => count.IsPiece ∧ offset.IsPiece
  | _ => True

/-- What a call keeps; a call that takes the text of a statement does not keep the statement. -/
def kept : Call → List Reference
  | select columns => columns.flatMap Value.references
  | source table aliasName => table.references ++ aliasName.references
  | sourceQuery _ aliasName => aliasName.references
  | paginate count offset => count.references ++ offset.references
  | _ => []

end Call

/-! ## The clauses of legible calls -/

namespace Value

variable {r : Resolver}

theorem IsPiece.orNull {v : Value} (h : v.IsPiece) : v.orNull.IsPiece := by
  unfold Value.orNull
  split
  · exact h
  · trivial

theorem IsPiece.references_orNull {v : Value} (h : v.IsPiece) :
    v.orNull.references = v.references := by
  unfold Value.orNull
  split
  · rfl
  · next empty => exact (h.references_of_false (by simpa using empty)).symm

theorem IsPiece.embedded {v w : Value} (h : v.IsPiece) (made : v.embedded r = .ok w) :
    w.IsPiece ∧ w.references = [] := by
  cases v with
  | reference x =>
    cases x with
    | builder id =>
      obtain ⟨t, -, made⟩ := bind_eq_ok.mp made
      cases made
      exact ⟨rfl, rfl⟩
    | config k => cases h
  | null | int i | text s | joinType t | direction d =>
    cases made
    exact ⟨h, rfl⟩
  | _ => cases h

theorem NamesPiece.toColumn? {v : Value} (h : v.NamesPiece) {c : Column}
    (made : v.toColumn? = some c) :
    c.name.isText ∧ c.aliasName.IsPiece ∧
      c.name.references ++ c.aliasName.references = v.references := by
  unfold Value.toColumn? at made
  split at made
  · cases h
  · next other =>
    have pair : ∀ n a, v.sequence? = some [n, a] → a.IsPiece := by
      unfold NamesPiece at h
      split at h
      · exact h.elim
      · exact h
    split at made
    · next isText =>
      split at made <;> cases made
      exact ⟨isText, trivial, by simp⟩
    · split at made
      · next n sequence =>
        split at made <;> cases made
        next name => exact ⟨isText_of_isName name, trivial, by simp [references_sequence? sequence]⟩
      · next n a sequence =>
        split at made <;> cases made
        next name =>
        have piece := pair n a sequence
        refine ⟨isText_of_isName name, piece.orNull, ?_⟩
        simp [references_sequence? sequence, piece.references_orNull]
      · cases made

theorem references_select {columns : List Value} {cs : List Column}
    (legible : ∀ v ∈ columns, v.NamesPiece) (made : columns.mapM Value.toColumn? = some cs) :
    (Clause.select cs).Legible ∧
      (Clause.select cs).references = columns.flatMap Value.references := by
  induction columns generalizing cs with
  | nil =>
    cases made
    exact ⟨nofun, rfl⟩
  | cons v rest ih =>
    obtain ⟨first, others⟩ := List.forall_mem_cons.mp legible
    rw [List.mapM_cons] at made
    obtain ⟨c, column, made⟩ := Option.bind_eq_some_iff.mp made
    obtain ⟨ds, columns, made⟩ := Option.bind_eq_some_iff.mp made
    cases made
    obtain ⟨name, aliasName, same⟩ := first.toColumn? column
    obtain ⟨later, sames⟩ := ih others columns
    refine ⟨List.forall_mem_cons.mpr ⟨⟨name, aliasName⟩, later⟩, ?_⟩
    simpa only [Clause.references, List.flatMap_cons, same] using congrArg _ sames

/-- An ordering that is no descriptor is one of texts. -/
theorem toSortItem?_legible {v : Value} (other : ∀ c d, v ≠ .order c d) {i : SortItem}
    (made : v.toSortItem? r = .ok (some i)) :
    i.column.isText ∧ (i.direction = .null ∨ ∃ d, i.direction = .direction d) := by
  unfold toSortItem? at made
  split at made
  · exact absurd rfl (other _ _)
  · split at made
    · next isText =>
      split at made <;> cases made
      exact ⟨isText, .inl rfl⟩
    · split at made
      · split at made <;> cases made
        next name => exact ⟨isText_of_isName name, .inl rfl⟩
      · next c d sequence =>
        split at made
        · next name =>
          obtain ⟨d', directed, made⟩ := bind_eq_ok.mp made
          obtain ⟨w, rfl, rfl⟩ := Option.map_eq_some_iff.mp (Except.ok.inj made)
          exact ⟨isText_of_isName name, toDirection?_cases directed⟩
        · cases made
      · cases made

end Value

namespace Builder

variable {r : Resolver} {ctx : Context} {b : Builder} {c : Call} {change : Change}

theorem sortItems_legible {items : List Value} (other : ∀ v ∈ items, ∀ c d, v ≠ .order c d)
    {sorted : List SortItem} (made : sortItems r items = .ok sorted) :
    (Clause.orderBy sorted).Legible := by
  induction items generalizing sorted with
  | nil =>
    cases made
    exact nofun
  | cons v rest ih =>
    obtain ⟨first, others⟩ := List.forall_mem_cons.mp other
    obtain ⟨item, read, made⟩ := bind_eq_ok.mp made
    cases item with
    | none => cases made
    | some i =>
      obtain ⟨is, later, made⟩ := bind_eq_ok.mp made
      cases made
      exact List.forall_mem_cons.mpr ⟨Value.toSortItem?_legible first read, ih others later⟩

/-- The target of a join is a table of names. -/
theorem joinTarget?_legible {target subquery : Value} (flag : subquery.references = [])
    (table : ∀ s a q, target = .table s a q → q.references = []) {t : Table}
    (made : joinTarget? r target subquery = .ok (some t)) :
    t.source.isText ∧ t.aliasName.isText ∧ t.isSubquery.references = [] := by
  unfold joinTarget? at made
  dsimp only at made
  split at made
  · next source aliasName wrapped parts =>
    obtain ⟨sql, -, made⟩ := bind_eq_ok.mp made
    obtain ⟨names, rfl⟩ :
        (sql.isName && aliasName.isName) = true ∧ ⟨sql, aliasName, wrapped⟩ = t := by
      split at made
      · next names =>
        cases made
        exact ⟨names, rfl⟩
      · cases made
    obtain ⟨hs, ha⟩ := Bool.and_eq_true_iff.mp names
    refine ⟨Value.isText_of_isName hs, Value.isText_of_isName ha, ?_⟩
    split at parts
    · next isSubquery =>
      cases parts
      split
      · exact flag
      · exact table _ _ _ rfl
    · split at parts <;> cases parts
      exact flag
  · cases made

/-- The clause that a legible call adds is legible, and keeps what the call keeps. -/
theorem plan_legible {clause : Clause} (legible : c.Legible)
    (planned : b.plan ctx c = .ok (.append clause)) :
    clause.Legible ∧ clause.references = c.kept := by
  cases c with
  | select columns =>
    obtain ⟨-, -, cs, made, same⟩ := planSelect_eq_ok.mp planned
    cases same
    exact Value.references_select legible made
  | source table aliasName =>
    obtain ⟨-, -, -, same⟩ := planSource_eq_ok.mp planned
    cases same
    refine ⟨⟨legible.1, legible.2.orNull, rfl⟩, ?_⟩
    simp [Clause.references, Table.references, Call.kept, legible.2.references_orNull]
  | sourceQuery query aliasName =>
    obtain ⟨-, sql, taken, -, -, -, same⟩ := planSourceQuery_eq_ok.mp planned
    cases same
    obtain ⟨piece, free⟩ := legible.1.embedded taken
    refine ⟨⟨piece, legible.2, rfl⟩, ?_⟩
    simp [Clause.references, Table.references, Call.kept, free]
  | rows column =>
    obtain ⟨-, -, -, same⟩ := planRows_eq_ok.mp planned
    cases same
    exact ⟨legible, Value.references_of_isText legible⟩
  | groups expression =>
    obtain ⟨-, -, same⟩ := planGroups_eq_ok.mp planned
    cases same
    exact ⟨legible, Value.references_of_isText legible⟩
  | join joinType target on subquery =>
    obtain ⟨t, -, table, made, left, right, -, hl, hr, same⟩ := planJoin_eq_ok.mp planned
    cases same
    obtain ⟨source, aliasName, flag⟩ := joinTarget?_legible legible.1 legible.2 made
    have fine : (Clause.join t table left right).Legible :=
      ⟨source, aliasName, flag, Value.isText_of_isName hl, Value.isText_of_isName hr⟩
    exact ⟨fine, fine.references_of_other rfl⟩
  | groupBy columns =>
    obtain ⟨-, names, same⟩ := planGroupBy_eq_ok.mp planned
    cases same
    have fine : (Clause.groupBy columns).Legible := fun v hv => Value.isText_of_isName (names v hv)
    exact ⟨fine, fine.references_of_other rfl⟩
  | orderBy items =>
    obtain ⟨-, sorted, made, same⟩ := planOrderBy_eq_ok.mp planned
    cases same
    have fine := sortItems_legible legible made
    exact ⟨fine, fine.references_of_other rfl⟩
  | paginate count offset =>
    obtain ⟨-, same⟩ := planPaginate_eq_ok.mp planned
    cases same
    exact ⟨legible, rfl⟩
  | union all query =>
    obtain ⟨q, -, name, same⟩ := planUnion_eq_ok.mp planned
    cases same
    have fine : (Clause.union all q).Legible := Value.isText_of_isName name
    exact ⟨fine, fine.references_of_other rfl⟩
  | _ =>
    rcases plan_change planned with ⟨kind, op, part, -, same⟩ | ⟨_, operator, -⟩
    · cases same
    · cases operator

/-- An operator keeps nothing. -/
theorem kept_of_operator {kind : OperatorKind} (operator : c.operator? = some kind) :
    c.kept = [] := by
  cases c <;> first | rfl | cases operator

/-- After a legible call a builder refers to what it has referred to, and to what the call keeps. -/
theorem references_apply_legible (legible : c.Legible) (planned : b.plan ctx c = .ok change)
    (strict : Bool) : (b.apply strict change).references = b.references ++ c.kept := by
  rcases plan_change planned with ⟨kind, op, part, operator, rfl⟩ | ⟨clause, -, rfl, -, -⟩
  · rw [references_apply_extend, kept_of_operator operator, List.append_nil]
  · rw [references_apply_append, (plan_legible legible planned).2]

end Builder

/-! ## Accepted whatever is kept -/

/-- The call that keeps other statements in place of those that it keeps. -/
def Call.rekept (F : Reference → Reference) : Call → Call
  | select columns => select (columns.map (Value.relocate F))
  | source table aliasName => source (table.relocate F) (aliasName.relocate F)
  | sourceQuery query aliasName => sourceQuery query (aliasName.relocate F)
  | paginate count offset => paginate (count.relocate F) (offset.relocate F)
  | c => c

theorem Value.isSome_toColumn?_relocate (F : Reference → Reference) (v : Value) :
    (v.relocate F).toColumn?.isSome = v.toColumn?.isSome := by
  have name (w : Value) : (w.relocate F).isName = w.isName := by simp [isName, isText]
  cases v with
  | list items | tuple items =>
    rcases items with _ | ⟨n, _ | ⟨a, _ | _⟩⟩
    · rfl
    · cases known : n.isName <;>
        simp [relocate, toColumn?, isText, content?, sequence?, name, known]
    · cases known : n.isName <;>
        simp [relocate, toColumn?, isText, content?, sequence?, name, known]
    · simp [relocate, toColumn?, isText, content?, sequence?]
  | column n a =>
    cases known : n.isTrue <;> simp [relocate, toColumn?, known]
  | _ => rfl

namespace Builder

variable {r : Resolver} {ctx : Context} {b : Builder} {c c' : Call} {change : Change}

theorem isCount_relocate (F : Reference → Reference) (v : Value) :
    isCount (v.relocate F) = isCount v := by
  cases v <;> rfl

/-- Whether a call is accepted does not depend on what it keeps. -/
theorem plan_rekept (F : Reference → Reference) :
    (∃ change, b.plan ctx (c.rekept F) = .ok change) ↔ ∃ change, b.plan ctx c = .ok change := by
  cases c with
  | select columns =>
    simp [Call.rekept, plan, planSelect_eq_ok, exists_mapM_eq_some,
      Value.isSome_toColumn?_relocate]
  | source table aliasName => simp [Call.rekept, plan, planSource_eq_ok]
  | sourceQuery query aliasName => simp [Call.rekept, plan, planSourceQuery_eq_ok]
  | paginate count offset => simp [Call.rekept, plan, planPaginate_eq_ok, isCount_relocate]
  | _ => rfl

/-! ## Refused for want of a text -/

theorem toRaw_unshown {id : Nat} {e : Failure} (unshown : r.statement id = .error e) :
    (Value.reference (.builder id)).toRaw r = .error e := by
  simp [Value.toRaw, unshown]

theorem listInside_unshown {make : List Value → Value} (gathers : Value.Gathers make) {id : Nat}
    {sql : String} {e : Failure} (unshown : r.statement id = .error e) {before after : List Value}
    {inside : Value} (shown : listInside r (make (before ++ .text sql :: after)) = .ok inside) :
    listInside r (make (before ++ .reference (.builder id) :: after)) = .error e := by
  have items (vs : List Value) : listInside r (make vs) =
      (do return .text (← joinContents ", " (← vs.mapM (Value.toRaw r)))) := by
    rcases gathers with rfl | rfl | rfl | rfl <;> rfl
  rw [items] at shown ⊢
  obtain ⟨raws, read, -⟩ := bind_eq_ok.mp shown
  rw [List.mapM_append] at read ⊢
  obtain ⟨first, early, -⟩ := bind_eq_ok.mp read
  rw [early, ok_bind, List.mapM_cons, toRaw_unshown unshown]
  rfl

theorem joinTarget?_unshown {make : List Value → Value} (pairs : Value.Pairs make) {id : Nat}
    {e : Failure} (unshown : r.statement id = .error e) (aliasName subquery : Value) :
    joinTarget? r (make [.reference (.builder id), aliasName]) subquery = .error e := by
  rcases pairs with rfl | rfl <;> simp [joinTarget?, Value.sequence?, Value.embedded, unshown]

/-- If a call would be accepted with a text in place of a statement, the statement not having one is
what it is refused for. -/
theorem plan_unshown {id : Nat} {sql : String} {e : Failure}
    (unshown : ctx.resolver.statement id = .error e)
    (embeds : c.Embeds id sql c') (accepted : b.plan ctx c' = .ok change) :
    b.plan ctx c = .error e := by
  have condition : b.current?.isSome → ∀ v, discard (b.requireCondition ctx.resolver v) = .ok () :=
    fun current v => discard_requireCondition_eq_ok.mpr current
  cases embeds with
  | source aliasName =>
    obtain ⟨filled, -⟩ := planSourceQuery_eq_ok.mp accepted
    simp [plan, planSourceQuery, filled, Value.embedded, unshown]
  | union all => simp [plan, planUnion, Value.embedded, unshown]
  | within negated =>
    obtain ⟨current, -⟩ := planWithin_eq_ok.mp accepted
    simp [plan, planWithin, condition current, listInside, unshown]
  | item negated gathers before after =>
    obtain ⟨current, inside, shown, -⟩ := planWithin_eq_ok.mp accepted
    simp [plan, planWithin, condition current, listInside_unshown gathers unshown shown]
  | low negated high =>
    obtain ⟨current, -⟩ := planBetween_eq_ok.mp accepted
    simp [plan, planBetween, condition current, toRaw_unshown unshown]
  | high negated low =>
    obtain ⟨current, v, raw, l, text, -⟩ := planBetween_eq_ok.mp accepted
    simp [plan, planBetween, condition current, raw, text, toRaw_unshown unshown]
  | pair joinType aliasName on subquery pairs =>
    obtain ⟨t, known, -⟩ := planJoin_eq_ok.mp accepted
    simp [plan, planJoin, known, joinTarget?_unshown pairs unshown]
  | table joinType aliasName isSubquery on subquery =>
    obtain ⟨t, known, -⟩ := planJoin_eq_ok.mp accepted
    simp [plan, planJoin, known, joinTarget?, Value.embedded, unshown]
  | compare operator =>
    obtain ⟨current, known, op, text, -⟩ := planCompare_eq_ok.mp accepted
    simp [plan, planCompare, condition current, known, text, Value.toLiteral, unshown]
  | differ operator =>
    obtain ⟨current, one, accepted⟩ := planDiffer_eq_ok.mp accepted
    obtain ⟨-, known, op, text, -⟩ := planCompare_eq_ok.mp accepted
    simp [plan, planDiffer, planCompare, condition current, one, known, text, Value.toLiteral,
      unshown]

end Builder

end SelectBuilder
