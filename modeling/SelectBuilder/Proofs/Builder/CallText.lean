import SelectBuilder.Proofs.Builder.Agreement
import SelectBuilder.Proofs.Value.OperandText

/-!
# Texts of calls

The text that a call adds to a statement, told from its operands alone, and the proof that the
change of an accepted call writes just this text.
-/
namespace SelectBuilder

open Outcome

namespace Call

/-- The operands are of the kinds that the call is meant for, and none is a builder. -/
def Typed : Call → Prop
  | select columns => ∀ v ∈ columns, v.IsColumn
  | source table aliasName => table.IsString ∧ aliasName.IsOptional
  | sourceQuery query aliasName => query.IsString ∧ aliasName.IsOptional
  | rows column => column.IsString
  | compare operator value => operator.IsString ∧ value.IsLiteral
  | differ value operator => operator.IsString ∧ value.IsLiteral
  | connect _ column => column.IsString
  | like _ pattern => pattern.IsString
  | between _ low high => low.BuilderFree ∧ high.BuilderFree
  | within _ values => values.BuilderFree
  | isNull _ => True
  | join _ target on _ =>
    target.IsTarget ∧ ∃ columns, on.sequence? = some columns ∧ ∀ v ∈ columns, v.IsString
  | groupBy columns => ∀ v ∈ columns, v.IsString
  | groups expression => expression.IsString
  | orderBy items => ∀ v ∈ items, v.IsOrdering
  | paginate count offset => count.IsWhole ∧ (offset = .null ∨ offset.IsWhole)
  | union _ query => query.IsString

/-- The columns of a join are written the other way round. -/
def onText (on : Value) : String :=
  match on.sequence? with
  | some [left, right] => right.string ++ " = " ++ left.string
  | _ => ""

/-- The text of a call. Objects among the operands of a range or a list are shown as given. -/
def text (shown : Reference → Outcome String) : Call → String
  | select columns => "SELECT " ++ String.intercalate ", " (columns.map Value.columnText)
  | source table aliasName => "FROM " ++ Value.tableText table.string aliasName.string false
  | sourceQuery query aliasName => "FROM " ++ Value.tableText query.string aliasName.string true
  | rows column => "WHERE " ++ column.string
  | compare operator value => operator.string ++ " " ++ value.literalText
  | differ value operator => operator.string ++ " " ++ value.literalText
  | connect word column => word.word ++ " " ++ column.string
  | like negated pattern =>
    Builder.negatable negated "LIKE" ++ " " ++ ("'" ++ pattern.string ++ "'")
  | between negated low high =>
    Builder.negatable negated "BETWEEN" ++ " " ++ low.operandText shown ++ " AND " ++
      high.operandText shown
  | within negated values =>
    Builder.negatable negated "IN" ++ " (" ++ values.listText shown ++ ")"
  | isNull negated => if negated then "IS NOT NULL" else "IS NULL"
  | join joinType target on subquery =>
    Text.upper (joinType.content?.getD "") ++ " JOIN " ++ target.targetText subquery.isTrue ++
      " ON " ++ onText on
  | groupBy columns => "GROUP BY " ++ String.intercalate ", " (columns.map Value.string)
  | groups expression => "HAVING " ++ expression.string
  | orderBy items => "ORDER BY " ++ String.intercalate ", " (items.map Value.orderingText)
  | paginate count offset =>
    "LIMIT " ++ count.wholeText ++ (if offset.isNull then "" else " OFFSET " ++ offset.wholeText)
  | union all query => (if all then "UNION ALL " else "UNION ") ++ query.string

/-- The text of a call depends on nothing but the call and what its objects show. -/
theorem text_congr {shown shown' : Reference → Outcome String} (c : Call)
    (h : ∀ x ∈ c.references, shown x = shown' x) : c.text shown = c.text shown' := by
  have operand (v : Value) (hv : v ∈ c.operands) : ∀ x ∈ v.references, shown x = shown' x :=
    fun x hx => h x (List.mem_flatMap.mpr ⟨v, hv, hx⟩)
  cases c with
  | between negated low high =>
    have l := Value.operandText_congr low (operand low (by simp [operands]))
    have h := Value.operandText_congr high (operand high (by simp [operands]))
    simp only [text, l, h]
  | within negated values =>
    simp only [text, Value.listText_congr values (operand values (by simp [operands]))]
  | _ => rfl

end Call

/-- A change adds a text to a statement: as a clause of its own, or as a part of a condition. -/
def Change.Writes (t : String) : Change → Prop
  | .append c => ∀ r, c.render r = .ok t
  | .extend _ part _ => part = t

theorem joinContents_texts (separator : String) (ts : List String) :
    joinContents separator (ts.map .text) = .ok (String.intercalate separator ts) := by
  have contents : (ts.map Value.text).mapM Value.content? = some ts := by
    induction ts with
    | nil => rfl
    | cons t rest ih => simp [ih]
  rw [joinContents, contents]

theorem Clause.listText_texts (keyword : String) (ts : List String) :
    listText keyword (ts.map .text) = .ok (keyword ++ " " ++ String.intercalate ", " ts) := by
  rw [listText, joinContents_texts]
  rfl

theorem Clause.render_condition (r : Resolver) (kind : ConditionKind) (head : String)
    (parts : List String) : (Clause.condition kind (.text head) parts).render r =
      .ok (String.intercalate " " (kind.keyword :: head :: parts)) :=
  joinContents_texts " " (kind.keyword :: head :: parts)

namespace Builder

theorem render_columns {columns : List Value} {cs : List Column}
    (typed : ∀ v ∈ columns, v.IsColumn) (made : columns.mapM Value.toColumn? = some cs)
    (r : Resolver) :
    cs.mapM (Column.render r) = .ok ((columns.map Value.columnText).map .text) := by
  induction columns generalizing cs with
  | nil =>
    cases made
    rfl
  | cons v rest ih =>
    rw [List.mapM_cons] at made
    obtain ⟨c, first, made⟩ := Option.bind_eq_some_iff.mp made
    obtain ⟨later, others, made⟩ := Option.bind_eq_some_iff.mp made
    cases made
    rw [List.mapM_cons, (typed v List.mem_cons_self).render first r,
      ih (fun u hu => typed u (List.mem_cons_of_mem v hu)) others]
    rfl

theorem render_sortItems {items : List Value} {sorted : List SortItem} {r : Resolver}
    (typed : ∀ v ∈ items, v.IsOrdering) (made : sortItems r items = .ok sorted) (r' : Resolver) :
    sorted.mapM (SortItem.render r') = .ok ((items.map Value.orderingText).map .text) := by
  induction items generalizing sorted with
  | nil =>
    cases made
    rfl
  | cons v rest ih =>
    obtain ⟨item, first, made⟩ := bind_eq_ok.mp made
    cases item with
    | none => cases made
    | some item =>
      obtain ⟨later, others, made⟩ := bind_eq_ok.mp made
      cases made
      rw [List.mapM_cons, (typed v List.mem_cons_self).render first r',
        ih (fun u hu => typed u (List.mem_cons_of_mem v hu)) others]
      rfl

theorem listInside_text {values inside : Value} {t : String} {r : Resolver}
    (free : values.BuilderFree) (listed : listInside r values = .ok inside)
    (made : inside.toText r = .ok t) : values.listText r.quoted = t := by
  unfold Value.listText
  unfold listInside at listed
  split at listed
  · next id => exact absurd (by simp [Value.references]) (free id)
  · split at listed
    · next isText =>
      cases listed
      rw [if_pos isText]
      exact free.written made
    · next noText =>
      split at listed
      · next items found =>
        obtain ⟨raws, raw, listed⟩ := bind_eq_ok.mp listed
        obtain ⟨joined, content, listed⟩ := bind_eq_ok.mp listed
        cases listed
        cases made
        unfold joinContents at content
        split at content
        · next texts contents =>
          cases content
          have items' : ∀ v ∈ items, v.BuilderFree := fun v hv k inside =>
            free k (Value.references_items? found hv inside)
          rw [if_neg noText, found, Option.getD_some,
            Value.BuilderFree.itemTexts items' raw contents]
        · cases content
      · cases listed

theorem joinTarget?_text {target subquery : Value} {t : Table} {r : Resolver}
    (typed : target.IsTarget) (made : joinTarget? r target subquery = .ok (some t))
    (r' : Resolver) : t.render r' = .ok (.text (target.targetText subquery.isTrue)) := by
  unfold joinTarget? at made
  dsimp only at made
  split at made
  · next source aliasName wrapped parts =>
    obtain ⟨sql, embedded, made⟩ := bind_eq_ok.mp made
    split at made <;> cases made
    next named =>
    split at parts
    · next isSubquery =>
      cases parts
      rw [typed.1.eq_text] at embedded
      cases embedded
      rw [Value.render_table r' _ typed.2]
      cases wrapped : subquery.isTrue <;> simp [Value.targetText, wrapped]
    · split at parts
      · next sequence =>
        cases parts
        obtain ⟨each, same⟩ := typed.parts sequence
        rcases each source (by simp) with rfl | string
        · cases embedded
          cases named
        · rw [string.eq_text] at embedded
          cases embedded
          rw [Value.render_table r' _ (each aliasName (by simp)), same, string.eq_text]
          rfl
      · cases parts
  · cases made

theorem planCompare_writes {b : Builder} {operator value : Value} {change : Change} {r : Resolver}
    (typed : operator.IsString ∧ value.IsLiteral)
    (planned : b.planCompare r operator value = .ok change) :
    change.Writes (operator.string ++ " " ++ value.literalText) := by
  obtain ⟨-, -, op, word, v, literal, w, rendered, t, text, rfl⟩ := planCompare_eq_ok.mp planned
  rw [typed.1.toText] at word
  cases word
  exact congrArg _ (typed.2.toText literal rendered text).symm

/-- The change of an accepted call writes the text of the call. -/
theorem plan_writes {ctx : Context} {b : Builder} {c : Call} {change : Change} (typed : c.Typed)
    (planned : b.plan ctx c = .ok change) : change.Writes (c.text ctx.resolver.quoted) := by
  cases c with
  | select columns =>
    obtain ⟨-, -, cs, made, rfl⟩ := planSelect_eq_ok.mp planned
    intro r
    rw [Clause.render, render_columns typed made, ok_bind, Clause.listText_texts]
    rfl
  | source table aliasName =>
    obtain ⟨-, -, -, rfl⟩ := planSource_eq_ok.mp planned
    intro r
    have absent := typed.2.orNull
    rw [Clause.render, typed.1.eq_text, Value.render_table r _ absent.1, absent.2]
    rfl
  | sourceQuery query aliasName =>
    obtain ⟨-, sql, embedded, -, -, -, rfl⟩ := planSourceQuery_eq_ok.mp planned
    intro r
    rw [typed.1.eq_text] at embedded
    cases embedded
    rw [Clause.render, Value.render_table r _ typed.2]
    rfl
  | rows column =>
    obtain ⟨-, -, -, rfl⟩ := planRows_eq_ok.mp planned
    intro r
    rw [Value.IsString.eq_text typed, Clause.render_condition]
    rfl
  | groups expression =>
    obtain ⟨-, -, rfl⟩ := planGroups_eq_ok.mp planned
    intro r
    rw [Value.IsString.eq_text typed, Clause.render_condition]
    rfl
  | compare operator value => exact planCompare_writes typed planned
  | differ value operator => exact planCompare_writes typed (planDiffer_eq_ok.mp planned).2.2
  | connect word column =>
    obtain ⟨-, -, -, t, text, rfl⟩ := planConnect_eq_ok.mp planned
    rw [Value.IsString.toText typed] at text
    cases text
    rfl
  | like negated pattern =>
    obtain ⟨-, -, v, rendered, t, text, rfl⟩ := planLike_eq_ok.mp planned
    simp only [Value.render, Value.IsString.toText typed] at rendered
    cases rendered
    cases text
    rfl
  | between negated low high =>
    obtain ⟨-, v, lowRaw, l, lowText, w, highRaw, u, highText, rfl⟩ := planBetween_eq_ok.mp planned
    have low := typed.1.operandText lowRaw lowText
    have high := typed.2.operandText highRaw highText
    simp only [Change.Writes, Call.text, low, high]
  | within negated values =>
    obtain ⟨-, inside, listed, -, t, text, rfl⟩ := planWithin_eq_ok.mp planned
    simp only [Change.Writes, Call.text, listInside_text typed listed text]
  | isNull negated =>
    obtain ⟨-, rfl⟩ := planIsNull_eq_ok.mp planned
    rfl
  | join joinType target on subquery =>
    obtain ⟨t, type, table, targeted, left, right, sequence, -, -, rfl⟩ := planJoin_eq_ok.mp planned
    obtain ⟨target', columns, sequence', strings⟩ := typed
    cases sequence.symm.trans sequence'
    intro r
    obtain ⟨word, content, known⟩ := Option.bind_eq_some_iff.mp (joinTypeOf_eq_ok.mp type)
    have hl := (strings left (by simp)).toText r
    have hr := (strings right (by simp)).toText r
    rw [Clause.render, joinTarget?_text target' targeted, ok_bind, JoinType.word_of_ofWord? known]
    simp [Clause.joinText, hl, hr, Call.text, Call.onText, sequence, content, String.append_assoc,
      pure, Except.pure]
  | groupBy columns =>
    obtain ⟨-, -, rfl⟩ := planGroupBy_eq_ok.mp planned
    intro r
    have texts : (columns.map Value.string).map Value.text = columns := by
      rw [List.map_map]
      refine (List.map_congr_left fun v hv => ?_).trans (List.map_id columns)
      exact (Value.IsString.eq_text (typed v hv)).symm
    have written := Clause.listText_texts "GROUP BY" (columns.map Value.string)
    rw [texts] at written
    exact written
  | orderBy items =>
    obtain ⟨-, sorted, made, rfl⟩ := planOrderBy_eq_ok.mp planned
    intro r
    rw [Clause.render, render_sortItems typed made, ok_bind, Clause.listText_texts]
    rfl
  | paginate count offset =>
    obtain ⟨-, rfl⟩ := planPaginate_eq_ok.mp planned
    intro r
    simp only [Clause.render, Clause.limitText, Call.text, typed.1.toText r]
    rcases typed.2 with rfl | whole
    · simp [Value.isNull, pure, Except.pure]
    · simp [whole.toText r, whole.isNull, String.append_assoc, pure, Except.pure]
  | union all query =>
    obtain ⟨q, embedded, -, rfl⟩ := planUnion_eq_ok.mp planned
    intro r
    rw [Value.IsString.eq_text typed] at embedded
    cases embedded
    rfl

end Builder

end SelectBuilder
