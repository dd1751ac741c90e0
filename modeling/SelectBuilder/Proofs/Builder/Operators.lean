import SelectBuilder.Proofs.Builder.Planning
import SelectBuilder.Proofs.Builder.OperatorWords

/-!
# Operators

A call is an operator on the condition under the cursor or it adds a clause. An operator whose
operands are valid is refused for one of two reasons only: there is no condition, or it is a
connective and a column still waits.
-/
namespace SelectBuilder

open Outcome

namespace Value

def HasText (r : Resolver) (v : Value) : Prop := ∃ t, v.toText r = .ok t

/-- The value can be written on the other side of a comparison. -/
def HasLiteral (r : Resolver) (v : Value) : Prop :=
  ∃ l, v.toLiteral r = .ok l ∧ ∃ w, l.render r = .ok w ∧ w.HasText r

/-- The value can be written as the end of a range. -/
def HasRaw (r : Resolver) (v : Value) : Prop := ∃ w, v.toRaw r = .ok w ∧ w.HasText r

theorem isText_of_isName {v : Value} (h : v.isName) : v.isText := (Bool.and_eq_true_iff.mp h).1

/-- A string has a text. -/
theorem hasText_of_isText {r : Resolver} {v : Value} (h : v.isText) : v.HasText r := by
  cases v <;> first | exact ⟨_, rfl⟩ | cases h

/-- What may not be equal may be compared. -/
theorem isOneOf_comparison {v : Value} (h : v.isOneOf inequalityOperators = .ok true) :
    v.isOneOf comparisonOperators = .ok true := by
  unfold isOneOf at h ⊢
  split at h
  · cases h
  · split at h
    · next hashable =>
      have known := Except.ok.inj h
      cases content : v.content? with
      | none => simp [content] at known
      | some s => simp_all [comparisonOperators]
    · cases h

end Value

/-- What operators have added to a clause. -/
def Clause.parts : Clause → List String
  | condition _ _ parts => parts
  | _ => []

namespace Call

/-- The kind of a call that extends a condition. -/
def operator? : Call → Option OperatorKind
  | compare _ _ => some .predicate
  | differ _ _ => some .predicate
  | connect _ _ => some .connective
  | like _ _ => some .predicate
  | between _ _ _ => some .predicate
  | within _ _ => some .predicate
  | isNull _ => some .predicate
  | _ => none

/-- Whether a call opens a condition. -/
def opens : Call → Bool
  | rows _ => true
  | groups _ => true
  | _ => false

/-- The operator as it is named when there is no condition for it. -/
def sign : Call → Value
  | compare operator _ => operator
  | differ _ operator => operator
  | connect word _ => .text word.word
  | like negated _ => .text (Builder.negatable negated "LIKE")
  | between negated _ _ => .text (Builder.negatable negated "BETWEEN")
  | within negated _ => .text (Builder.negatable negated "IN")
  | isNull negated => .text (if negated then "IS NOT NULL" else "IS NULL")
  | _ => .null

/-- The operands of an operator are such that it can be written. -/
def Valid (r : Resolver) : Call → Prop
  | compare operator value =>
    operator.isOneOf comparisonOperators = .ok true ∧ operator.HasText r ∧ value.HasLiteral r
  | differ value operator =>
    operator.isOneOf inequalityOperators = .ok true ∧ operator.HasText r ∧ value.HasLiteral r
  | connect _ column => column.isTrue ∧ column.HasText r
  | like _ pattern => pattern.isTrue ∧ pattern.HasText r
  | between _ low high => low.HasRaw r ∧ high.HasRaw r
  | within _ values =>
    ∃ inside, Builder.listInside r values = .ok inside ∧ inside.isTrue ∧ inside.HasText r
  | isNull _ => True
  | _ => False

end Call

namespace Builder

variable {ctx : Context} {b : Builder} {c : Call} {change : Change}

theorem planCompare_isOk {r : Resolver} {operator value : Value} :
    (∃ change, b.planCompare r operator value = .ok change) ↔
      b.current?.isSome ∧ operator.isOneOf comparisonOperators = .ok true ∧
        operator.HasText r ∧ value.HasLiteral r := by
  simp only [planCompare_eq_ok]
  constructor
  · rintro ⟨_, current, known, op, word, v, literal, w, rendered, t, text, -⟩
    exact ⟨current, known, ⟨op, word⟩, v, literal, w, rendered, t, text⟩
  · rintro ⟨current, known, ⟨op, word⟩, v, literal, w, rendered, t, text⟩
    exact ⟨_, current, known, op, word, v, literal, w, rendered, t, text, rfl⟩

/-- An operator with valid operands needs a condition, and a connective a complete one. -/
theorem plan_operator_isOk {kind : OperatorKind} (operator : c.operator? = some kind) :
    (∃ change, b.plan ctx c = .ok change) ↔
      b.current?.isSome ∧ (kind = .connective → b.stage = .complete) ∧ c.Valid ctx.resolver := by
  cases c with
  | compare op value =>
    cases operator
    simpa [plan, Call.Valid] using planCompare_isOk
  | differ value op =>
    cases operator
    simp only [plan, planDiffer_eq_ok, exists_and_left, planCompare_isOk, Call.Valid]
    constructor
    · rintro ⟨current, known, -, -, valid⟩
      exact ⟨current, nofun, known, valid⟩
    · rintro ⟨current, -, known, valid⟩
      exact ⟨current, known, current, Value.isOneOf_comparison known, valid⟩
  | connect word column =>
    cases operator
    simp only [plan, planConnect_eq_ok, Call.Valid, Value.HasText]
    constructor
    · rintro ⟨_, current, filled, complete, t, text, -⟩
      exact ⟨current, fun _ => complete, filled, t, text⟩
    · rintro ⟨current, complete, filled, t, text⟩
      exact ⟨_, current, filled, complete trivial, t, text, rfl⟩
  | like negated pattern =>
    cases operator
    simp only [plan, planLike_eq_ok, Call.Valid, Value.HasText]
    constructor
    · rintro ⟨_, current, filled, v, rendered, t, -, -⟩
      obtain ⟨s, text, -⟩ := bind_eq_ok.mp rendered
      exact ⟨current, nofun, filled, s, text⟩
    · rintro ⟨current, -, filled, s, text⟩
      refine ⟨_, current, filled, .text ("'" ++ s ++ "'"), ?_, _, rfl, rfl⟩
      simp [Value.render, text, pure, Except.pure]
  | between negated low high =>
    cases operator
    simp only [plan, planBetween_eq_ok, Call.Valid, Value.HasRaw, Value.HasText]
    constructor
    · rintro ⟨_, current, v, lowRaw, l, lowText, w, highRaw, u, highText, -⟩
      exact ⟨current, nofun, ⟨v, lowRaw, l, lowText⟩, w, highRaw, u, highText⟩
    · rintro ⟨current, -, ⟨v, lowRaw, l, lowText⟩, w, highRaw, u, highText⟩
      exact ⟨_, current, v, lowRaw, l, lowText, w, highRaw, u, highText, rfl⟩
  | within negated values =>
    cases operator
    simp only [plan, planWithin_eq_ok, Call.Valid, Value.HasText]
    constructor
    · rintro ⟨_, current, inside, listed, filled, t, text, -⟩
      exact ⟨current, nofun, inside, listed, filled, t, text⟩
    · rintro ⟨current, -, inside, listed, filled, t, text⟩
      exact ⟨_, current, inside, listed, filled, t, text, rfl⟩
  | isNull negated =>
    cases operator
    simp [plan, planIsNull_eq_ok, Call.Valid]
  | _ => cases operator

/-- The change of an operator extends the condition; that of another call adds a clause, which is a
condition without parts or none at all. -/
theorem plan_change (planned : b.plan ctx c = .ok change) :
    (∃ kind op part, c.operator? = some kind ∧ change = .extend op part kind.stage) ∨
      ∃ clause, c.operator? = none ∧ change = .append clause ∧
        clause.isCondition = c.opens ∧ clause.parts = [] := by
  cases c with
  | select columns =>
    obtain ⟨-, -, cs, -, rfl⟩ := planSelect_eq_ok.mp planned
    exact .inr ⟨_, rfl, rfl, rfl, rfl⟩
  | source table aliasName =>
    obtain ⟨-, -, -, rfl⟩ := planSource_eq_ok.mp planned
    exact .inr ⟨_, rfl, rfl, rfl, rfl⟩
  | sourceQuery query aliasName =>
    obtain ⟨-, sql, -, -, -, -, rfl⟩ := planSourceQuery_eq_ok.mp planned
    exact .inr ⟨_, rfl, rfl, rfl, rfl⟩
  | rows column =>
    obtain ⟨-, -, -, rfl⟩ := planRows_eq_ok.mp planned
    exact .inr ⟨_, rfl, rfl, rfl, rfl⟩
  | groups expression =>
    obtain ⟨-, -, rfl⟩ := planGroups_eq_ok.mp planned
    exact .inr ⟨_, rfl, rfl, rfl, rfl⟩
  | compare operator value =>
    obtain ⟨-, -, op, -, v, -, w, -, t, -, rfl⟩ := planCompare_eq_ok.mp planned
    exact .inl ⟨_, _, _, rfl, rfl⟩
  | differ value operator =>
    obtain ⟨-, -, planned⟩ := planDiffer_eq_ok.mp planned
    obtain ⟨-, -, op, -, v, -, w, -, t, -, rfl⟩ := planCompare_eq_ok.mp planned
    exact .inl ⟨_, _, _, rfl, rfl⟩
  | connect word column =>
    obtain ⟨-, -, -, t, -, rfl⟩ := planConnect_eq_ok.mp planned
    exact .inl ⟨_, _, _, rfl, rfl⟩
  | like negated pattern =>
    obtain ⟨-, -, v, -, t, -, rfl⟩ := planLike_eq_ok.mp planned
    exact .inl ⟨_, _, _, rfl, rfl⟩
  | between negated low high =>
    obtain ⟨-, v, -, l, -, w, -, t, -, rfl⟩ := planBetween_eq_ok.mp planned
    exact .inl ⟨_, _, _, rfl, rfl⟩
  | within negated values =>
    obtain ⟨-, inside, -, -, t, -, rfl⟩ := planWithin_eq_ok.mp planned
    exact .inl ⟨_, _, _, rfl, rfl⟩
  | isNull negated =>
    obtain ⟨-, rfl⟩ := planIsNull_eq_ok.mp planned
    exact .inl ⟨_, _, _, rfl, rfl⟩
  | join joinType target on subquery =>
    obtain ⟨t, -, table, -, left, right, -, -, -, rfl⟩ := planJoin_eq_ok.mp planned
    exact .inr ⟨_, rfl, rfl, rfl, rfl⟩
  | groupBy columns =>
    obtain ⟨-, -, rfl⟩ := planGroupBy_eq_ok.mp planned
    exact .inr ⟨_, rfl, rfl, rfl, rfl⟩
  | orderBy items =>
    obtain ⟨-, sorted, -, rfl⟩ := planOrderBy_eq_ok.mp planned
    exact .inr ⟨_, rfl, rfl, rfl, rfl⟩
  | paginate count offset =>
    obtain ⟨-, rfl⟩ := planPaginate_eq_ok.mp planned
    exact .inr ⟨_, rfl, rfl, rfl, rfl⟩
  | union all query =>
    obtain ⟨q, -, -, rfl⟩ := planUnion_eq_ok.mp planned
    exact .inr ⟨_, rfl, rfl, rfl, rfl⟩

/-- Without a condition nothing else about an operator is looked at. -/
theorem plan_without_condition {kind : OperatorKind} {word : String} (none : b.current? = none)
    (operator : c.operator? = some kind) (named : c.sign.toText ctx.resolver = .ok word) :
    b.plan ctx c = misuse (.conditionMissing word) := by
  have missing : b.requireCondition ctx.resolver c.sign = misuse (.conditionMissing word) := by
    unfold requireCondition
    rw [none]
    simp only [named]
    rfl
  cases c with
  | compare | differ | connect | like | between | within | isNull =>
    simp only [Call.sign] at missing
    simp only [plan, planCompare, planDiffer, planConnect, planLike, planBetween, planWithin,
      planIsNull, missing]
    rfl
  | _ => cases operator

end Builder

end SelectBuilder
