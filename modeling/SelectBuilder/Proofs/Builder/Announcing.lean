import SelectBuilder.Builder.Method
import SelectBuilder.Proofs.Builder.Freezing
import SelectBuilder.Proofs.Logging.Account

/-!
# What an accepted call tells

The record of an accepted call depends on the keywords of the clauses that are there, and on the
keyword or the operator that the call stands for. Most methods stand for one of these whatever their
operands are; where the caller names the operator it is one of a few.
-/
namespace SelectBuilder

open Outcome Logging

def conditionKeywords : List String := ["WHERE", "HAVING"]

/-- The words under which operators are told of. -/
def operatorWords : List String :=
  comparisonOperators ++ ["AND", "OR", "NOT", "LIKE", "NOT LIKE", "BETWEEN", "NOT BETWEEN", "IN",
    "NOT IN", "IS NULL", "IS NOT NULL"]

theorem Clause.isCondition_iff (c : Clause) : c.isCondition ↔ c.keyword ∈ conditionKeywords := by
  cases c with
  | condition kind =>
    cases kind <;> simp [isCondition, keyword, ConditionKind.keyword, conditionKeywords]
  | _ => simp [isCondition, keyword, conditionKeywords]

/-- The last one of the items of a list that have a property. -/
theorem getLast?_filter_eq {α : Type} {p : α → Bool} {l : List α} {i : Nat} {a : α}
    (found : l[i]? = some a) (is : p a) (last : ∀ j b, l[j]? = some b → p b → j ≤ i) :
    (l.filter p).getLast? = some a := by
  obtain ⟨inside, same⟩ := List.getElem?_eq_some_iff.mp found
  have later : (l.drop (i + 1)).filter p = [] := by
    refine List.filter_eq_nil_iff.mpr fun b among hb => ?_
    obtain ⟨k, standing⟩ := List.mem_iff_getElem?.mp among
    rw [List.getElem?_drop] at standing
    have := last _ b standing hb
    omega
  have parted : l = l.take i ++ a :: l.drop (i + 1) := by simp [← same]
  rw [parted, List.filter_append, List.filter_cons_of_pos is, later]
  simp

namespace Builder

/-- The keywords of the clauses of a statement. -/
def keywords (b : Builder) : List String := b.clauses.map Clause.keyword

@[simp] theorem keywords_fresh (config : Nat) : ({ config := config } : Builder).keywords = [] :=
  rfl

@[simp] theorem keywords_relocate (f : Reference → Reference) (b : Builder) :
    (Store.relocateBuilder f b).keywords = b.keywords := by
  simp only [keywords, Store.relocateBuilder, List.map_map]
  exact List.map_congr_left fun c _ => by cases c <;> rfl

end Builder

namespace Call

/-- The keyword of the clause that a call adds. Operators add none. -/
def keyword? : Call → Option String
  | select _ => some "SELECT"
  | source _ _ => some "FROM"
  | sourceQuery _ _ => some "FROM"
  | rows _ => some "WHERE"
  | groups _ => some "HAVING"
  | join _ _ _ _ => some "JOIN"
  | groupBy _ => some "GROUP BY"
  | orderBy _ => some "ORDER BY"
  | paginate _ _ => some "LIMIT"
  | union _ _ => some "UNION"
  | _ => none

/-- The keywords of a statement after it has accepted a call. -/
def leaves (c : Call) (ks : List String) : List String := ks ++ c.keyword?.toList

/-- What a statement with some keywords tells of a call that it accepts: that a clause was added, or
that the last condition was extended. -/
def tells (c : Call) (ks : List String) : Record :=
  match c.keyword? with
  | some k => added k (ks.length + 1)
  | none =>
    extended ((ks.filter fun k => conditionKeywords.contains k).getLast?.getD "")
      (c.sign.content?.getD "")

/-- Two calls stand for the same keyword or operator. -/
structure Alike (c c' : Call) : Prop where
  keyword : c.keyword? = c'.keyword?
  sign : c.sign = c'.sign

theorem Alike.leaves {c c' : Call} (h : c.Alike c') (ks : List String) :
    c.leaves ks = c'.leaves ks := by
  rw [Call.leaves, Call.leaves, h.keyword]

theorem Alike.tells {c c' : Call} (h : c.Alike c') (ks : List String) :
    c.tells ks = c'.tells ks := by
  rw [Call.tells, Call.tells, h.keyword, h.sign]

end Call

namespace Builder

variable {ctx : Context} {b : Builder} {c : Call} {change : Change} {clause : Clause}
  {op part : String} {stage : Stage}

theorem keyword?_of_append (planned : b.plan ctx c = .ok (.append clause)) :
    c.keyword? = some clause.keyword := by
  cases c with
  | select columns =>
    obtain ⟨-, -, cs, -, same⟩ := planSelect_eq_ok.mp planned
    cases same
    rfl
  | source table aliasName =>
    obtain ⟨-, -, -, same⟩ := planSource_eq_ok.mp planned
    cases same
    rfl
  | sourceQuery query aliasName =>
    obtain ⟨-, sql, -, -, -, -, same⟩ := planSourceQuery_eq_ok.mp planned
    cases same
    rfl
  | rows column =>
    obtain ⟨-, -, -, same⟩ := planRows_eq_ok.mp planned
    cases same
    rfl
  | groups expression =>
    obtain ⟨-, -, same⟩ := planGroups_eq_ok.mp planned
    cases same
    rfl
  | join joinType target on subquery =>
    obtain ⟨t, -, table, -, left, right, -, -, -, same⟩ := planJoin_eq_ok.mp planned
    cases same
    rfl
  | groupBy columns =>
    obtain ⟨-, -, same⟩ := planGroupBy_eq_ok.mp planned
    cases same
    rfl
  | orderBy items =>
    obtain ⟨-, sorted, -, same⟩ := planOrderBy_eq_ok.mp planned
    cases same
    rfl
  | paginate count offset =>
    obtain ⟨-, same⟩ := planPaginate_eq_ok.mp planned
    cases same
    rfl
  | union all query =>
    obtain ⟨q, -, -, same⟩ := planUnion_eq_ok.mp planned
    cases same
    rfl
  | _ =>
    rcases plan_change planned with ⟨kind, op, part, -, same⟩ | ⟨clause, operator, -⟩
    · cases same
    · cases operator

theorem keyword?_of_extend (planned : b.plan ctx c = .ok (.extend op part stage)) :
    c.keyword? = none := by
  rcases plan_change planned with ⟨kind, op, part, operator, -⟩ | ⟨clause, -, same, -⟩
  · cases c <;> first | rfl | cases operator
  · cases same

end Builder

/-- What is a comparison operator is a text. -/
theorem Value.text_of_isOneOf {v : Value} (h : v.isOneOf comparisonOperators = .ok true) :
    ∃ w ∈ comparisonOperators, v = .text w := by
  unfold isOneOf at h
  split at h
  · cases h
  · split at h
    · have known := Except.ok.inj h
      cases v with
      | text s => exact ⟨s, by simpa using known, rfl⟩
      | joinType t => cases t <;> exact absurd known (by decide)
      | direction d => cases d <;> exact absurd known (by decide)
      | _ => cases known
    · cases h

namespace Builder

variable {ctx : Context} {b : Builder} {c : Call} {change : Change} {op part : String}
  {stage : Stage}

theorem sign_mem {r : Resolver} {word : String} (h : c.sign.toText r = .ok word)
    (among : ∃ w ∈ operatorWords, c.sign = .text w) :
    c.sign = .text word ∧ word ∈ operatorWords := by
  obtain ⟨w, hw, same⟩ := among
  rw [same] at h
  cases h
  exact ⟨same, hw⟩

/-- A condition is extended under the operator that the call stands for, which is one of the words
for operators. -/
theorem sign_of_extended (planned : b.plan ctx c = .ok (.extend op part stage)) :
    c.sign = .text op ∧ op ∈ operatorWords := by
  have compared : ∀ {v : Value}, v.isOneOf comparisonOperators = .ok true →
      ∃ w ∈ operatorWords, v = .text w := fun known => by
    obtain ⟨w, hw, same⟩ := Value.text_of_isOneOf known
    exact ⟨w, List.mem_append_left _ hw, same⟩
  refine sign_mem (sign_of_extend planned) ?_
  cases c with
  | compare operator value =>
    obtain ⟨-, known, -⟩ := planCompare_eq_ok.mp planned
    exact compared known
  | differ value operator =>
    obtain ⟨-, -, planned⟩ := planDiffer_eq_ok.mp planned
    obtain ⟨-, known, -⟩ := planCompare_eq_ok.mp planned
    exact compared known
  | connect word column => exact ⟨_, by cases word <;> decide, rfl⟩
  | like negated pattern => exact ⟨_, by cases negated <;> decide, rfl⟩
  | between negated low high => exact ⟨_, by cases negated <;> decide, rfl⟩
  | within negated values => exact ⟨_, by cases negated <;> decide, rfl⟩
  | isNull negated => exact ⟨_, by cases negated <;> decide, rfl⟩
  | _ =>
    rcases plan_change planned with ⟨kind, op', part', operator, -⟩ | ⟨clause, -, same, -⟩
    · cases operator
    · cases same

theorem keywords_apply (planned : b.plan ctx c = .ok change) (strict : Bool) :
    (b.apply strict change).keywords = c.leaves b.keywords := by
  cases change with
  | append clause =>
    rw [Call.leaves, keyword?_of_append planned, keywords, clauses_apply_append, List.map_append]
    rfl
  | extend op part stage =>
    rw [Call.leaves, keyword?_of_extend planned, Option.toList_none, List.append_nil]
    exact map_extend Clause.keyword_extend b part stage

/-- The condition that is extended is the last one. -/
theorem Consistent.keyword_current (h : b.Consistent) (current : b.current?.isSome) :
    ∃ kind head parts, b.current? = some (.condition kind head parts) ∧
      (b.keywords.filter fun k => conditionKeywords.contains k).getLast? = some kind.keyword := by
  obtain ⟨i, cursor⟩ : ∃ i, b.cursor = some i := by
    cases hc : b.cursor <;> simp_all [current?]
  obtain ⟨kind, head, parts, standing, last⟩ := h.under_cursor cursor
  refine ⟨kind, head, parts, by simp [current?, cursor, standing], ?_⟩
  refine getLast?_filter_eq (i := i) ?_ (by cases kind <;> decide) fun j k found is => ?_
  · simp [keywords, standing, Clause.keyword]
  · rw [keywords, List.getElem?_map] at found
    obtain ⟨clause, there, rfl⟩ := Option.map_eq_some_iff.mp found
    exact last j ⟨clause, there, clause.isCondition_iff.mpr (by simpa using is)⟩

/-- What is told of an accepted call is known without its other operands. -/
theorem Consistent.recordOf (h : b.Consistent) (planned : b.plan ctx c = .ok change)
    (strict : Bool) : b.recordOf (b.enter strict change) change = c.tells b.keywords := by
  cases change with
  | append clause =>
    simp [Builder.recordOf, Call.tells, keyword?_of_append planned, Logging.added, keywords, enter]
  | extend op part stage =>
    obtain ⟨kind, head, parts, current, last⟩ := h.keyword_current (plan_admits planned).1
    rw [recordOf_extend current, Call.tells, keyword?_of_extend planned, last,
      (sign_of_extended planned).1]
    rfl

end Builder

namespace Signature

variable {R : Call → Call → Prop}

end Signature

/-- The methods whose callers name the operator. -/
def operatorMethods : List String := ["compare", "not_equals_to"]

end SelectBuilder
