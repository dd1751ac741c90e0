import SelectBuilder.Proofs.Builder.Consistency
import SelectBuilder.Proofs.Builder.Operators
import SelectBuilder.Proofs.Lists

/-!
# Admission of clauses

Four kinds of clauses stand at most once in a statement. A call for one of them makes demands on
the clauses that are there and on its operands, which are looked at in a fixed order; the first one
that is not met decides the failure. No call but one for a FROM clause looks at the FROM clause.
-/
namespace SelectBuilder

open Clause

namespace Outcome

/-- Demands, each with the number of the failure that it is refused with. All of them together
decide on success, and the first one that is not met decides on the failure. -/
structure Decided {α : Type} (x : Outcome α) (demands : List (Prop × Nat)) : Prop where
  accepted : x.isOk ↔ ∀ d ∈ demands, d.1
  refused : ∀ earlier d later, demands = earlier ++ d :: later → (∀ e ∈ earlier, e.1) → ¬d.1 →
    ∃ m, x = .error (.misuse m) ∧ m.code?.map ErrorCode.number = some d.2

variable {α β : Type}

theorem decided_ok (a : α) : Decided (.ok a) [] where
  accepted := iff_of_true rfl (by simp)
  refused := by simp

/-- A demand that is looked at before the others. -/
theorem Decided.demand {x : Outcome α} {p : Prop} {number : Nat} {later : List (Prop × Nat)}
    (unmet : ¬p → ∃ m, x = misuse m ∧ m.code?.map ErrorCode.number = some number)
    (met : p → Decided x later) : Decided x ((p, number) :: later) := by
  by_cases holds : p
  · obtain ⟨accepted, refused⟩ := met holds
    refine ⟨by simpa [holds] using accepted, fun earlier d rest split before fails => ?_⟩
    cases earlier with
    | nil =>
      obtain ⟨rfl, -⟩ := List.cons.inj split
      exact absurd holds fails
    | cons e earlier =>
      obtain ⟨-, split⟩ := List.cons.inj split
      exact refused earlier d rest split (fun e he => before e (List.mem_cons_of_mem _ he)) fails
  · obtain ⟨m, made, code⟩ := unmet holds
    refine ⟨by simp [made, misuse, holds, Except.isOk, Except.toBool],
      fun earlier d rest split before fails => ?_⟩
    cases earlier with
    | nil =>
      obtain ⟨rfl, -⟩ := List.cons.inj split
      exact ⟨m, made, code⟩
    | cons e earlier =>
      obtain ⟨rfl, -⟩ := List.cons.inj split
      exact absurd (before _ List.mem_cons_self) holds

/-- What is made of a success decides nothing. -/
theorem Decided.map {x : Outcome α} {demands : List (Prop × Nat)} (h : Decided x demands)
    (f : α → β) : Decided (x.map f) demands := by
  obtain ⟨accepted, refused⟩ := h
  cases x with
  | ok a => exact ⟨accepted, fun earlier d later split before fails =>
      (refused earlier d later split before fails).imp fun m made => by cases made.1⟩
  | error e => exact ⟨accepted, fun earlier d later split before fails =>
      (refused earlier d later split before fails).imp fun m made =>
        ⟨congrArg (Except.map f) made.1, made.2⟩⟩

end Outcome

namespace Clause

/-- A place is noted if and only if there is a clause of the kind. -/
theorem Noted.isSome_iff {kind : Clause → Bool} {cs : List Clause} {place : Option Nat}
    (h : Noted kind cs place) : place.isSome ↔ cs.any kind := by
  rw [Option.isSome_iff_exists, List.any_eq_true]
  constructor
  · rintro ⟨i, noted⟩
    obtain ⟨c, found, is⟩ := (h i).mp noted
    exact ⟨c, List.mem_of_getElem? found, is⟩
  · rintro ⟨c, among, is⟩
    obtain ⟨i, found⟩ := List.mem_iff_getElem?.mp among
    exact ⟨i, (h i).mpr ⟨c, found, is⟩⟩

theorem Noted.eq_none_iff {kind : Clause → Bool} {cs : List Clause} {place : Option Nat}
    (h : Noted kind cs place) : place = none ↔ cs.any kind = false := by
  rw [← Option.not_isSome_iff_eq_none, h.isSome_iff, Bool.not_eq_true]

end Clause

/-- The call is for a FROM clause. -/
def Call.addsSource : Call → Bool
  | source _ _ => true
  | sourceQuery _ _ => true
  | _ => false

namespace Builder

open Outcome

variable {b d : Builder}

/-- What is asked before a FROM clause is added, for a table and for a statement alike. -/
def sourceDemands (b : Builder) (source : Value) : List (Prop × Nat) :=
  [(b.clauses.any isSelect, 1001), (source.isTrue, 1002), (b.clauses.any isSource = false, 1005)]

theorem planSelect_decided (h : b.Consistent) (columns : List Value) :
    (b.planSelect columns).Decided
      [(b.clauses.any isSelect = false, 1016), (columns ≠ [], 1000),
        (∀ v ∈ columns, v.toColumn?.isSome, 1000)] := by
  rw [← h.select.eq_none_iff]
  unfold planSelect
  refine .demand (fun second => ⟨.secondSelect, ?_, rfl⟩) fun first => ?_
  · rw [if_pos (Option.isSome_iff_ne_none.mpr second)]
  rw [if_neg (by simp [first])]
  refine .demand (fun empty => ⟨.columnsMalformed, ?_, rfl⟩) fun some => ?_
  · rw [if_pos (by simpa using empty)]
  rw [if_neg (by simpa using some)]
  rw [← exists_mapM_eq_some]
  cases read : columns.mapM Value.toColumn? with
  | none => exact .demand (fun _ => ⟨.columnsMalformed, rfl, rfl⟩) (by simp)
  | some cs => exact .demand (by simp) fun _ => decided_ok _

/-- The demand for a SELECT clause, before whatever else is asked. -/
theorem decided_selected (h : b.Consistent) {clause : String} {f : Unit → Outcome Change}
    {later : List (Prop × Nat)} (rest : (f ()).Decided later) :
    (b.requireSelect clause >>= f).Decided ((b.clauses.any isSelect, 1001) :: later) := by
  rw [← h.select.isSome_iff]
  unfold requireSelect
  refine .demand (fun none => ⟨.selectMissing clause, ?_, rfl⟩) fun some => ?_
  · rw [if_neg none]
    rfl
  · rwa [if_pos some, ok_bind]

/-- A last demand but one that a value be filled, and a last one that a clause be the first of its
kind. -/
theorem decided_first {value : Value} {taken : Bool} {empty second : Misuse} {n m : Nat}
    {change : Change} {kind : Clause → Bool} {cs : List Clause}
    (same : taken = false ↔ cs.any kind = false)
    (hn : empty.code?.map ErrorCode.number = some n)
    (hm : second.code?.map ErrorCode.number = some m) :
    (if !value.isTrue then misuse empty else if taken then misuse second
      else .ok change : Outcome Change).Decided
      [(value.isTrue, n), (cs.any kind = false, m)] := by
  refine .demand (fun unfilled => ⟨empty, by simp [unfilled], hn⟩) fun filled => ?_
  rw [if_neg (by simp [filled]), ← same]
  refine .demand (fun present => ⟨second, by simp [present], hm⟩) fun absent => ?_
  rw [if_neg (by simp [absent])]
  exact decided_ok _

theorem checkSource_bind (source : Value) (change : Change) :
    (do b.checkSource source; return change) =
      b.requireSelect "FROM" >>= fun _ =>
        if !source.isTrue then misuse .tableMissing
        else if b.slots.source.isSome then misuse .secondFrom else .ok change := by
  unfold checkSource
  cases b.requireSelect "FROM" with
  | error e => rfl
  | ok u =>
    simp only [ok_bind]
    split
    · rfl
    · split <;> rfl

theorem checkSource_decided (h : b.Consistent) (source : Value) (change : Change) :
    (do b.checkSource source; return change : Outcome Change).Decided
      (b.sourceDemands source) := by
  rw [checkSource_bind]
  exact decided_selected h (decided_first (by simp [← h.source.eq_none_iff]) rfl rfl)

theorem planSource_decided (h : b.Consistent) (table aliasName : Value) :
    (b.planSource table aliasName).Decided (b.sourceDemands table) :=
  checkSource_decided h table _

theorem planSourceQuery_decided {r : Resolver} (h : b.Consistent) {query : Value}
    (plain : query.embedded r = .ok query) (aliasName : Value) :
    (b.planSourceQuery r query aliasName).Decided
      ((aliasName.isTrue, 1003) :: b.sourceDemands query) := by
  unfold planSourceQuery
  refine .demand (fun unnamed => ⟨.aliasMissing, by simp [unnamed], rfl⟩) fun named => ?_
  rw [if_neg (by simp [named]), plain]
  exact checkSource_decided h query _

theorem planRows_decided (h : b.Consistent) (column : Value) :
    (b.planRows column).Decided
      [(b.clauses.any isSelect, 1001), (column.isTrue, 1000),
        (b.clauses.any (isConditionOn .rows) = false, 1017)] :=
  decided_selected h (decided_first (by simp [← h.rows.eq_none_iff]) rfl rfl)

theorem planGroups_decided (h : b.Consistent) (expression : Value) :
    (b.planGroups expression).Decided
      [(expression.isTrue, 1015), (b.clauses.any (isConditionOn .groups) = false, 1015)] :=
  decided_first (by simp [← h.groups.eq_none_iff]) rfl rfl

/-- The builders differ in their FROM clauses at most, as far as calls can tell. -/
structure AlikeButSource (d b : Builder) : Prop where
  select : d.clauses.any isSelect = b.clauses.any isSelect
  rows : d.clauses.any (isConditionOn .rows) = b.clauses.any (isConditionOn .rows)
  groups : d.clauses.any (isConditionOn .groups) = b.clauses.any (isConditionOn .groups)
  current : d.current?.isSome = b.current?.isSome
  stage : d.stage = b.stage

/-- Of a builder that may or may not have a FROM clause, a call that adds none shows nothing. -/
theorem plan_isOk_but_source {ctx ctx' : Context} {c : Call} (hb : b.Consistent)
    (hd : d.Consistent) (alike : d.AlikeButSource b) (resolver : ctx'.resolver = ctx.resolver)
    (checks : ctx'.checksPagination = ctx.checksPagination) (other : c.addsSource = false) :
    (b.plan ctx c).isOk = (d.plan ctx' c).isOk := by
  obtain rfl : ctx' = ctx := by
    cases ctx
    cases ctx'
    simp_all
  rw [Bool.eq_iff_iff]
  cases operator : c.operator? with
  | some kind =>
    rw [isOk_iff, isOk_iff, plan_operator_isOk operator, plan_operator_isOk operator,
      alike.current, alike.stage]
  | none =>
    cases c with
    | select columns =>
      rw [plan, plan, (planSelect_decided hb columns).accepted,
        (planSelect_decided hd columns).accepted, alike.select]
    | rows column =>
      rw [plan, plan, (planRows_decided hb column).accepted,
        (planRows_decided hd column).accepted, alike.select, alike.rows]
    | groups expression =>
      rw [plan, plan, (planGroups_decided hb expression).accepted,
        (planGroups_decided hd expression).accepted, alike.groups]
    | join | groupBy | orderBy | paginate | union => rfl
    | source | sourceQuery => cases other
    | _ => cases operator

end Builder

end SelectBuilder
