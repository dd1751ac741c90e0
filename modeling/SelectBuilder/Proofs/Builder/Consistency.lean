import SelectBuilder.Proofs.Builder.Planning
import SelectBuilder.Store.Copy

/-!
# Consistent builders

A builder says in several fields where its clauses are. `Consistent` ties the fields to the list of
clauses, and to one another; every accepted call and every copy keeps it. How far the cursor may
stay behind the end of the list depends on whether the settings are strict.
-/
namespace SelectBuilder

namespace Clause

/-- A clause of a kind stands at a place of a list. -/
def Stands (kind : Clause → Bool) (cs : List Clause) (i : Nat) : Prop :=
  ∃ c, cs[i]? = some c ∧ kind c

/-- Only the kinds of the clauses count. -/
theorem stands_iff {kind : Clause → Bool} {cs : List Clause} {i : Nat} :
    Stands kind cs i ↔ (cs.map kind)[i]? = some true := by
  simp [Stands]

theorem Stands.lt {kind : Clause → Bool} {cs : List Clause} {i : Nat} (h : Stands kind cs i) :
    i < cs.length := by
  obtain ⟨c, found, -⟩ := h
  exact (List.getElem?_eq_some_iff.mp found).1

theorem stands_append {kind : Clause → Bool} {cs : List Clause} {c : Clause} {i : Nat} :
    Stands kind (cs ++ [c]) i ↔ Stands kind cs i ∨ i = cs.length ∧ kind c := by
  rcases Nat.lt_trichotomy i cs.length with before | rfl | after
  · simp [Stands, List.getElem?_append_left before, Nat.ne_of_lt before]
  · simp [Stands]
  · have none : (cs ++ [c])[i]? = none := by simp; omega
    have old : ¬Stands kind cs i := fun h => by have := h.lt; omega
    simp [Stands, none, Nat.ne_of_gt after] at old ⊢
    exact old

theorem map_modify {α β : Type} {f : α → α} {g : α → β} (h : ∀ a, g (f a) = g a) (cs : List α)
    (i : Nat) : (cs.modify i f).map g = cs.map g := by
  induction cs generalizing i with
  | nil => simp
  | cons a rest ih =>
    cases i with
    | zero => simp [h]
    | succ i => simp [ih]

/-- At most one clause of a kind is in a list, and its place is noted. -/
def Noted (kind : Clause → Bool) (cs : List Clause) (place : Option Nat) : Prop :=
  ∀ i, place = some i ↔ Stands kind cs i

theorem noted_congr {kind : Clause → Bool} {cs ds : List Clause} {place : Option Nat}
    (same : ds.map kind = cs.map kind) (h : Noted kind cs place) : Noted kind ds place := by
  intro i
  rw [h i, stands_iff, stands_iff, same]

theorem Noted.append {kind : Clause → Bool} {cs : List Clause} {place : Option Nat}
    (h : Noted kind cs place) {c : Clause} (first : kind c → place = none) :
    Noted kind (cs ++ [c]) (if kind c then some cs.length else place) := by
  intro i
  rw [stands_append, ← h i]
  split
  · next is =>
    simp [first is, is, eq_comm]
  · next other => simp [other]

theorem countP_le_one {kind : Clause → Bool} {cs : List Clause}
    (unique : ∀ i j, Stands kind cs i → Stands kind cs j → i = j) : cs.countP kind ≤ 1 := by
  induction cs with
  | nil => simp
  | cons c rest ih =>
    have below : rest.countP kind ≤ 1 :=
      ih fun i j hi hj => Nat.succ.inj (unique (i + 1) (j + 1) hi hj)
    cases is : kind c with
    | false => rwa [List.countP_cons_of_neg (by simp [is])]
    | true =>
      rw [List.countP_cons_of_pos is]
      have none : rest.countP kind = 0 := by
        refine List.countP_eq_zero.mpr fun d among hd => ?_
        obtain ⟨j, found⟩ := List.mem_iff_getElem?.mp among
        cases unique 0 (j + 1) ⟨c, rfl, is⟩ ⟨d, found, hd⟩
      omega

theorem Noted.unique {kind : Clause → Bool} {cs : List Clause} {place : Option Nat}
    (h : Noted kind cs place) : cs.countP kind ≤ 1 := by
  refine countP_le_one fun i j hi hj => ?_
  exact Option.some.inj (((h i).mpr hi).symm.trans ((h j).mpr hj))

@[simp] theorem isSelect_relocate (f : Reference → Reference) (c : Clause) :
    (c.relocate f).isSelect = c.isSelect := by
  cases c <;> rfl

@[simp] theorem isSource_relocate (f : Reference → Reference) (c : Clause) :
    (c.relocate f).isSource = c.isSource := by
  cases c <;> rfl

@[simp] theorem isConditionOn_relocate (kind : ConditionKind) (f : Reference → Reference)
    (c : Clause) : (c.relocate f).isConditionOn kind = c.isConditionOn kind := by
  cases c <;> rfl

@[simp] theorem isCondition_relocate (f : Reference → Reference) (c : Clause) :
    (c.relocate f).isCondition = c.isCondition := by
  cases c <;> rfl

end Clause

namespace Slots

/-- Every place is noted under the kind of the clause alone. -/
theorem record_eq (s : Slots) (n : Nat) (c : Clause) :
    s.record n c =
      { select := if c.isSelect then some n else s.select
        source := if c.isSource then some n else s.source
        rows := if c.isConditionOn .rows then some n else s.rows
        groups := if c.isConditionOn .groups then some n else s.groups } := by
  cases c with
  | condition kind head parts => cases kind <;> rfl
  | _ => rfl

end Slots

namespace Builder

open Clause

/-- What a builder asks of a clause that is to be added. -/
structure Takes (b : Builder) (c : Clause) : Prop where
  select : c.isSelect → b.slots.select = none
  source : c.isSource → b.slots.select.isSome ∧ b.slots.source = none
  rows : c.isConditionOn .rows → b.slots.select.isSome ∧ b.slots.rows = none
  groups : c.isConditionOn .groups → b.slots.groups = none

/-- What a builder asks of a change before it is made. -/
def Admits (b : Builder) : Change → Prop
  | .append c => b.Takes c
  | .extend _ _ stage => b.current?.isSome ∧ stage ≠ .absent

/-- A clause that is noted nowhere is taken at any time. -/
theorem takes_unnoted (b : Builder) {c : Clause} (select : c.isSelect = false)
    (source : c.isSource = false) (condition : c.isCondition = false) : b.Takes c := by
  cases c <;> simp_all [isSelect, isSource, isCondition] <;>
    exact ⟨nofun, nofun, nofun, nofun⟩

theorem plan_admits {ctx : Context} {b : Builder} {c : Call} {change : Change}
    (h : b.plan ctx c = .ok change) : b.Admits change := by
  cases c with
  | select columns =>
    obtain ⟨free, -, cs, -, rfl⟩ := planSelect_eq_ok.mp h
    exact ⟨fun _ => free, nofun, nofun, nofun⟩
  | source table aliasName =>
    obtain ⟨select, -, free, rfl⟩ := planSource_eq_ok.mp h
    exact ⟨nofun, fun _ => ⟨select, free⟩, nofun, nofun⟩
  | sourceQuery query aliasName =>
    obtain ⟨-, sql, -, select, -, free, rfl⟩ := planSourceQuery_eq_ok.mp h
    exact ⟨nofun, fun _ => ⟨select, free⟩, nofun, nofun⟩
  | rows column =>
    obtain ⟨select, -, free, rfl⟩ := planRows_eq_ok.mp h
    exact ⟨nofun, nofun, fun _ => ⟨select, free⟩, nofun⟩
  | groups expression =>
    obtain ⟨-, free, rfl⟩ := planGroups_eq_ok.mp h
    exact ⟨nofun, nofun, nofun, fun _ => free⟩
  | compare operator value =>
    obtain ⟨current, -, op, -, v, -, w, -, t, -, rfl⟩ := planCompare_eq_ok.mp h
    exact ⟨current, nofun⟩
  | differ value operator =>
    obtain ⟨-, -, h⟩ := planDiffer_eq_ok.mp h
    obtain ⟨current, -, op, -, v, -, w, -, t, -, rfl⟩ := planCompare_eq_ok.mp h
    exact ⟨current, nofun⟩
  | connect word column =>
    obtain ⟨current, -, -, t, -, rfl⟩ := planConnect_eq_ok.mp h
    exact ⟨current, nofun⟩
  | like negated pattern =>
    obtain ⟨current, -, v, -, t, -, rfl⟩ := planLike_eq_ok.mp h
    exact ⟨current, nofun⟩
  | between negated low high =>
    obtain ⟨current, v, -, l, -, w, -, t, -, rfl⟩ := planBetween_eq_ok.mp h
    exact ⟨current, nofun⟩
  | within negated values =>
    obtain ⟨current, inside, -, -, t, -, rfl⟩ := planWithin_eq_ok.mp h
    exact ⟨current, nofun⟩
  | isNull negated =>
    obtain ⟨current, rfl⟩ := planIsNull_eq_ok.mp h
    exact ⟨current, nofun⟩
  | join joinType target on subquery =>
    obtain ⟨t, -, table, -, left, right, -, -, -, rfl⟩ := planJoin_eq_ok.mp h
    exact b.takes_unnoted rfl rfl rfl
  | groupBy columns =>
    obtain ⟨-, -, rfl⟩ := planGroupBy_eq_ok.mp h
    exact b.takes_unnoted rfl rfl rfl
  | orderBy items =>
    obtain ⟨-, sorted, -, rfl⟩ := planOrderBy_eq_ok.mp h
    exact b.takes_unnoted rfl rfl rfl
  | paginate count offset =>
    obtain ⟨-, rfl⟩ := planPaginate_eq_ok.mp h
    exact b.takes_unnoted rfl rfl rfl
  | union all query =>
    obtain ⟨q, -, -, rfl⟩ := planUnion_eq_ok.mp h
    exact b.takes_unnoted rfl rfl rfl

/-- The fields of a builder agree with its clauses and with one another. -/
structure Consistent (b : Builder) : Prop where
  select : Noted isSelect b.clauses b.slots.select
  source : Noted isSource b.clauses b.slots.source
  rows : Noted (isConditionOn .rows) b.clauses b.slots.rows
  groups : Noted (isConditionOn .groups) b.clauses b.slots.groups
  source_after : ∀ i, Stands isSource b.clauses i → ∃ j < i, Stands isSelect b.clauses j
  rows_after :
    ∀ i, Stands (isConditionOn .rows) b.clauses i → ∃ j < i, Stands isSelect b.clauses j
  stage : b.cursor = none ↔ b.stage = .absent
  cursor : ∀ i, b.cursor = some i → Stands isCondition b.clauses i
  cursor_last : ∀ i, b.cursor = some i → ∀ j, Stands isCondition b.clauses j → j ≤ i

theorem fresh_consistent (config : Nat) : ({ config := config } : Builder).Consistent := by
  constructor <;> simp [Noted, Stands]

theorem relocate_consistent (f : Reference → Reference) {b : Builder} (h : b.Consistent) :
    (Store.relocateBuilder f b).Consistent where
  select := noted_congr (by simp [Store.relocateBuilder]) h.select
  source := noted_congr (by simp [Store.relocateBuilder]) h.source
  rows := noted_congr (by simp [Store.relocateBuilder]) h.rows
  groups := noted_congr (by simp [Store.relocateBuilder]) h.groups
  source_after := by simpa [stands_iff, Store.relocateBuilder] using h.source_after
  rows_after := by simpa [stands_iff, Store.relocateBuilder] using h.rows_after
  stage := h.stage
  cursor := by simpa [stands_iff, Store.relocateBuilder] using h.cursor
  cursor_last := by simpa [stands_iff, Store.relocateBuilder] using h.cursor_last

/-- What comes after a clause of another kind still does when a clause is added, and so does the
added clause if the other kind is there. -/
theorem after_append {kind first : Clause → Bool} {cs : List Clause} {c : Clause}
    (old : ∀ i, Stands kind cs i → ∃ j < i, Stands first cs j)
    (new : kind c → ∃ j, Stands first cs j) :
    ∀ i, Stands kind (cs ++ [c]) i → ∃ j < i, Stands first (cs ++ [c]) j := by
  intro i hi
  rcases stands_append.mp hi with hi | ⟨rfl, is⟩
  · obtain ⟨j, before, hj⟩ := old i hi
    exact ⟨j, before, stands_append.mpr (.inl hj)⟩
  · obtain ⟨j, hj⟩ := new is
    exact ⟨j, hj.lt, stands_append.mpr (.inl hj)⟩

theorem slots_apply_append (strict : Bool) (b : Builder) (c : Clause) :
    (b.apply strict (.append c)).slots = b.slots.record b.clauses.length c := by
  simp [apply, enter, settle]

theorem cursor_apply_append {strict : Bool} {b : Builder} {c : Clause} {i : Nat} :
    (b.apply strict (.append c)).cursor = some i ↔
      c.isCondition ∧ i = b.clauses.length ∨
        c.isCondition = false ∧ strict = false ∧ b.cursor = some i := by
  cases is : c.isCondition <;> cases strict <;>
    simp [apply, enter, settle, append, is, eq_comm]

theorem append_consistent (strict : Bool) {b : Builder} {c : Clause} (h : b.Consistent)
    (takes : b.Takes c) : (b.apply strict (.append c)).Consistent := by
  have selected : b.slots.select.isSome → ∃ j, Stands isSelect b.clauses j := by
    intro some
    obtain ⟨j, hj⟩ := Option.isSome_iff_exists.mp some
    exact ⟨j, (h.select j).mp hj⟩
  constructor
  case select =>
    rw [slots_apply_append, Slots.record_eq]
    exact h.select.append takes.select
  case source =>
    rw [slots_apply_append, Slots.record_eq]
    exact h.source.append fun is => (takes.source is).2
  case rows =>
    rw [slots_apply_append, Slots.record_eq]
    exact h.rows.append fun is => (takes.rows is).2
  case groups =>
    rw [slots_apply_append, Slots.record_eq]
    exact h.groups.append takes.groups
  case source_after =>
    exact after_append h.source_after fun is => selected (takes.source is).1
  case rows_after =>
    exact after_append h.rows_after fun is => selected (takes.rows is).1
  case stage =>
    have := h.stage
    cases is : c.isCondition <;> cases strict <;> simp [apply, enter, settle, append, is, this]
  case cursor =>
    intro i hi
    rcases cursor_apply_append.mp hi with ⟨is, rfl⟩ | ⟨-, -, old⟩
    · exact stands_append.mpr (.inr ⟨rfl, is⟩)
    · exact stands_append.mpr (.inl (h.cursor i old))
  case cursor_last =>
    intro i hi j hj
    rcases cursor_apply_append.mp hi with ⟨-, rfl⟩ | ⟨other, -, old⟩
    · have := hj.lt
      simp [apply, enter, settle] at this
      omega
    · rcases stands_append.mp hj with hj | ⟨-, is⟩
      · exact h.cursor_last i old j hj
      · simp [other] at is

/-- A part is added to no clause or to one, which keeps its kind. -/
theorem map_extend {α : Type} {kind : Clause → α} (same : ∀ part c, kind (c.extend part) = kind c)
    (b : Builder) (part : String) (stage : Stage) :
    (b.extend part stage).clauses.map kind = b.clauses.map kind := by
  unfold extend
  split
  · exact map_modify (same part) _ _
  · rfl

theorem extend_consistent (strict : Bool) {b : Builder} {op part : String} {stage : Stage}
    (h : b.Consistent) (admits : b.Admits (.extend op part stage)) :
    (b.apply strict (.extend op part stage)).Consistent := by
  have slots : (b.apply strict (.extend op part stage)).slots = b.slots := slots_extend ..
  have cursor : (b.apply strict (.extend op part stage)).cursor = b.cursor := cursor_extend ..
  have stands {kind : Clause → Bool} (same : ∀ part c, kind (c.extend part) = kind c) (i : Nat) :
      Stands kind (b.apply strict (.extend op part stage)).clauses i ↔ Stands kind b.clauses i := by
    rw [stands_iff, stands_iff]
    exact iff_of_eq (congrArg (·[i]? = some true) (map_extend same b part stage))
  have select := stands isSelect_extend
  have source := stands isSource_extend
  have rows := stands (isConditionOn_extend .rows)
  have groups := stands (isConditionOn_extend .groups)
  have condition := stands isCondition_extend
  constructor
  case select => simpa [slots, Noted, select] using h.select
  case source => simpa [slots, Noted, source] using h.source
  case rows => simpa [slots, Noted, rows] using h.rows
  case groups => simpa [slots, Noted, groups] using h.groups
  case source_after => simpa [source, select] using h.source_after
  case rows_after => simpa [rows, select] using h.rows_after
  case stage =>
    obtain ⟨current, present⟩ := admits
    obtain ⟨place, hplace⟩ : ∃ place, b.cursor = some place := by
      cases hc : b.cursor <;> simp_all [current?]
    simp [apply, enter, settle, extend, hplace, present]
  case cursor => simpa [cursor, condition] using h.cursor
  case cursor_last => simpa [cursor, condition] using h.cursor_last

/-- An accepted call keeps a builder consistent, whatever the settings are. -/
theorem apply_consistent (strict : Bool) {b : Builder} {change : Change} (h : b.Consistent)
    (admits : b.Admits change) : (b.apply strict change).Consistent := by
  cases change with
  | append c => exact append_consistent strict h admits
  | extend op part stage => exact extend_consistent strict h admits

/-- The cursor is on the last clause if that is a condition, and nowhere else. -/
def FollowsLast (b : Builder) : Prop := b.cursor.isSome ↔ b.clauses.getLast?.any isCondition

/-- The cursor is on a condition once there is one. -/
def FollowsAny (b : Builder) : Prop := b.cursor.isSome ↔ b.clauses.any isCondition

/-- Both depend on the cursor and on the kinds of the clauses alone. -/
theorem follows_congr {b d : Builder} (cursor : d.cursor = b.cursor)
    (kinds : d.clauses.map isCondition = b.clauses.map isCondition) :
    (b.FollowsLast → d.FollowsLast) ∧ (b.FollowsAny → d.FollowsAny) := by
  have last (e : Builder) :
      e.clauses.getLast?.any isCondition = (e.clauses.map isCondition).getLast?.any id := by
    rw [List.getLast?_map, Option.any_map]
    rfl
  have any (e : Builder) : e.clauses.any isCondition = (e.clauses.map isCondition).any id := by
    simp [List.any_map]
  unfold FollowsLast FollowsAny
  rw [last b, last d, any b, any d, cursor, kinds]
  exact ⟨id, id⟩

theorem extend_follows (strict : Bool) (b : Builder) (op part : String) (stage : Stage) :
    (b.FollowsLast → (b.apply strict (.extend op part stage)).FollowsLast) ∧
      (b.FollowsAny → (b.apply strict (.extend op part stage)).FollowsAny) :=
  follows_congr (cursor_extend ..) (map_extend isCondition_extend b part stage)

/-- Under strict settings every clause that is no condition takes the cursor away. -/
theorem strict_followsLast {b : Builder} {change : Change} (h : b.FollowsLast) :
    (b.apply true change).FollowsLast := by
  cases change with
  | append c => cases is : c.isCondition <;> simp [FollowsLast, apply, enter, settle, append, is]
  | extend op part stage => exact (b.extend_follows true op part stage).1 h

/-- Under relaxed settings no clause does. -/
theorem relaxed_followsAny {b : Builder} {change : Change} (h : b.FollowsAny) :
    (b.apply false change).FollowsAny := by
  cases change with
  | append c =>
    unfold FollowsAny at h
    cases is : c.isCondition <;> simp_all [FollowsAny, apply, enter, settle, append]
  | extend op part stage => exact (b.extend_follows false op part stage).2 h

/-- A consistent builder without conditions has its cursor nowhere. -/
theorem Consistent.follows {b : Builder} (h : b.Consistent)
    (none : b.clauses.any isCondition = false) : b.FollowsLast ∧ b.FollowsAny := by
  have absent : ∀ c ∈ b.clauses, c.isCondition = false := by simpa using none
  have released : b.cursor.isSome = false := by
    cases hc : b.cursor with
    | none => rfl
    | some i =>
      obtain ⟨c, found, is⟩ := h.cursor i hc
      rw [absent c (List.mem_of_getElem? found)] at is
      cases is
  have last : b.clauses.getLast?.any isCondition = false := by
    cases hl : b.clauses.getLast? with
    | none => rfl
    | some c => exact absent c (List.mem_of_getLast? hl)
  simp [FollowsLast, FollowsAny, released, last, none]

end Builder

end SelectBuilder
