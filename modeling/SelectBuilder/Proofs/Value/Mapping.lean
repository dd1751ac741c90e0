import SelectBuilder.Proofs.Outcome
import SelectBuilder.Value.Relocation

/-!
# Clauses mapped value by value

A clause is made of values, and a map of values makes another clause of it. Its text stays if the
texts of these values do, and if the map is faithful to what else of a value a clause looks at.
-/
namespace SelectBuilder

open Outcome

def Column.map (φ : Value → Value) (c : Column) : Column := ⟨φ c.name, φ c.aliasName⟩

def Table.map (φ : Value → Value) (t : Table) : Table :=
  ⟨φ t.source, φ t.aliasName, φ t.isSubquery⟩

def SortItem.map (φ : Value → Value) (i : SortItem) : SortItem := ⟨φ i.column, φ i.direction⟩

namespace Clause

def map (φ : Value → Value) : Clause → Clause
  | select columns => select (columns.map (Column.map φ))
  | source target => source (target.map φ)
  | condition kind head parts => condition kind (φ head) parts
  | join t target left right => join t (target.map φ) (φ left) (φ right)
  | groupBy columns => groupBy (columns.map φ)
  | orderBy items => orderBy (items.map (SortItem.map φ))
  | limit count offset => limit (φ count) (φ offset)
  | union all query => union all (φ query)

/-- The values of which a clause is made. -/
def values : Clause → List Value
  | select columns => columns.flatMap fun c => [c.name, c.aliasName]
  | source target => [target.source, target.aliasName, target.isSubquery]
  | condition _ head _ => [head]
  | join _ target left right =>
    [target.source, target.aliasName, target.isSubquery, left, right]
  | groupBy columns => columns
  | orderBy items => items.flatMap fun i => [i.column, i.direction]
  | limit count offset => [count, offset]
  | union _ query => [query]

theorem references_eq (c : Clause) : c.references = c.values.flatMap Value.references := by
  cases c <;> simp [references, values, Table.references, List.flatMap_assoc]

theorem references_of_mem {c : Clause} {v : Value} (hv : v ∈ c.values) :
    v.references ⊆ c.references := by
  rw [references_eq]
  exact fun x hx => List.mem_flatMap.mpr ⟨v, hv, hx⟩

theorem relocate_eq_map (F : Reference → Reference) (c : Clause) :
    c.relocate F = c.map (Value.relocate F) := by
  cases c <;> rfl

theorem map_map (φ ψ : Value → Value) (c : Clause) : (c.map φ).map ψ = c.map fun v => ψ (φ v) := by
  cases c <;> simp [map, Column.map, Table.map, SortItem.map]

theorem map_congr {φ ψ : Value → Value} {c : Clause} (same : ∀ v ∈ c.values, φ v = ψ v) :
    c.map φ = c.map ψ := by
  cases c with
  | select columns =>
    refine congrArg select (List.map_congr_left fun c hc => ?_)
    simp only [Column.map, same c.name (List.mem_flatMap.mpr ⟨c, hc, by simp⟩),
      same c.aliasName (List.mem_flatMap.mpr ⟨c, hc, by simp⟩)]
  | orderBy items =>
    refine congrArg orderBy (List.map_congr_left fun i hi => ?_)
    simp only [SortItem.map, same i.column (List.mem_flatMap.mpr ⟨i, hi, by simp⟩),
      same i.direction (List.mem_flatMap.mpr ⟨i, hi, by simp⟩)]
  | groupBy columns => exact congrArg groupBy (List.map_congr_left same)
  | _ =>
    simp only [values, List.forall_mem_cons] at same
    simp [map, Table.map, same]

theorem map_id (c : Clause) : c.map id = c := by
  cases c with
  | select columns => exact congrArg select (List.map_id columns)
  | groupBy columns => exact congrArg groupBy (List.map_id columns)
  | orderBy items => exact congrArg orderBy (List.map_id items)
  | _ => rfl

end Clause

/-- A map that leaves what clauses look at in a value besides its text. -/
structure Faithful (φ : Value → Value) : Prop where
  isNull : ∀ v, (φ v).isNull = v.isNull
  isTrue : ∀ v, (φ v).isTrue = v.isTrue
  content : ∀ v, (φ v).content? = v.content?
  inner : ∀ v, (φ v).inner = v.inner.map φ
  text : ∀ s, φ (.text s) = .text s

/-- The text of a value is that of what it is mapped to, as are the texts of what it carries. -/
structure Value.Carried (φ : Value → Value) (r r' : Resolver) (v : Value) : Prop where
  toText : v.toText r = (φ v).toText r'
  inner : ∀ w, v.inner = .ok w → w.toText r = (φ w).toText r'

section

variable {φ : Value → Value} {r r' : Resolver} {v base aliasName : Value}

theorem Outcome.mapM_mapped {α β γ δ : Type} {F : α → Outcome γ} {G : β → Outcome δ} {m : α → β}
    {n : γ → δ} {l : List α} (h : ∀ a ∈ l, (F a).map n = G (m a)) :
    (l.mapM F).map (List.map n) = (l.map m).mapM G := by
  induction l with
  | nil => rfl
  | cons a rest ih =>
    rw [List.map_cons, List.mapM_cons, List.mapM_cons, ← h a List.mem_cons_self,
      ← ih fun b hb => h b (List.mem_cons_of_mem a hb)]
    cases F a with
    | error e => rfl
    | ok c => cases rest.mapM F <;> rfl

theorem Faithful.joinContents (h : Faithful φ) (separator : String) (vs : List Value) :
    SelectBuilder.joinContents separator (vs.map φ) = SelectBuilder.joinContents separator vs := by
  simp only [SelectBuilder.joinContents, List.mapM_map, Function.comp_def, h.content]

theorem Faithful.toText_text (h : Faithful φ) (s : String) :
    (Value.text s).toText r = (φ (.text s)).toText r' := by
  rw [h.text]
  rfl

theorem aliased_cases (h : aliased r base aliasName = .ok v) : v = base ∨ ∃ s, v = .text s := by
  unfold aliased at h
  split at h
  · obtain ⟨b, -, h⟩ := bind_eq_ok.mp h
    obtain ⟨a, -, h⟩ := bind_eq_ok.mp h
    cases h
    exact .inr ⟨_, rfl⟩
  · cases h
    exact .inl rfl

theorem Faithful.aliased (h : Faithful φ) (hb : base.toText r = (φ base).toText r')
    (ha : aliasName.toText r = (φ aliasName).toText r') :
    (aliased r base aliasName).map φ = aliased r' (φ base) (φ aliasName) := by
  unfold SelectBuilder.aliased
  rw [h.isTrue, hb, ha]
  split
  · cases (φ base).toText r' with
    | error e => rfl
    | ok b =>
      cases (φ aliasName).toText r' with
      | error e => rfl
      | ok a => exact congrArg Except.ok (h.text _)
  · rfl

/-- The text of a table is that of its rendering, and it is found like the texts of its parts. -/
theorem Faithful.toText_table (h : Faithful φ) {t : Table}
    (hs : t.source.toText r = (φ t.source).toText r') (shown : t.render r = .ok v) :
    v.toText r = (φ v).toText r' := by
  unfold Table.render at shown
  dsimp only at shown
  split at shown
  · obtain ⟨target, made, shown⟩ := bind_eq_ok.mp shown
    obtain ⟨s, -, rfl⟩ := map_eq_ok.mp made
    rcases aliased_cases shown with rfl | ⟨s, rfl⟩ <;> exact h.toText_text _
  · rcases aliased_cases shown with rfl | ⟨s, rfl⟩
    · exact hs
    · exact h.toText_text s

theorem Faithful.table (h : Faithful φ) {t : Table}
    (hs : t.source.toText r = (φ t.source).toText r')
    (ha : t.aliasName.toText r = (φ t.aliasName).toText r') :
    (t.render r).map φ = (t.map φ).render r' := by
  unfold Table.render Table.map
  rw [h.isTrue]
  split
  · rw [hs]
    cases (φ t.source).toText r' with
    | error e => rfl
    | ok s => exact (h.aliased (h.toText_text _) ha).trans (by rw [h.text]; rfl)
  · exact h.aliased hs ha

theorem Faithful.sortItem (h : Faithful φ) {i : SortItem}
    (hc : i.column.toText r = (φ i.column).toText r') (hd : i.direction.Carried φ r r') :
    (i.render r).map φ = (i.map φ).render r' := by
  unfold SortItem.render SortItem.map
  rw [h.isNull]
  split
  · rfl
  · rw [hc, h.inner]
    cases (φ i.column).toText r' with
    | error e => rfl
    | ok c =>
      cases inner : i.direction.inner with
      | error e => rfl
      | ok w =>
        simp only [ok_bind, Except.map, hd.inner w inner]
        cases (φ w).toText r' with
        | error e => rfl
        | ok d => exact congrArg Except.ok (h.text _)

theorem Clause.render_map (h : Faithful φ) {c : Clause}
    (carried : ∀ v ∈ c.values, v.Carried φ r r') : c.render r = (c.map φ).render r' := by
  cases c with
  | select columns =>
    have each := Outcome.mapM_mapped (l := columns) (m := Column.map φ) (F := Column.render r)
      (G := Column.render r') (n := φ)
      fun c hc => h.aliased (carried _ (List.mem_flatMap.mpr ⟨c, hc, by simp⟩)).toText
        (carried _ (List.mem_flatMap.mpr ⟨c, hc, by simp⟩)).toText
    simp only [map, render, ← each]
    cases columns.mapM (Column.render r) with
    | error e => rfl
    | ok vs => simp [Except.map, listText, h.joinContents]
  | source target =>
    have hs := (carried target.source (by simp [values])).toText
    have ha := (carried target.aliasName (by simp [values])).toText
    simp only [map, render, ← h.table hs ha]
    cases shown : target.render r with
    | error e => rfl
    | ok v => simp only [ok_bind, Except.map, sourceText, h.toText_table hs shown]
  | condition kind head parts => simp [map, render, conditionText, joinContents, h.content]
  | join joinType target left right =>
    have hs := (carried target.source (by simp [values])).toText
    have ha := (carried target.aliasName (by simp [values])).toText
    have hl := (carried left (by simp [values])).toText
    have hr := (carried right (by simp [values])).toText
    simp only [map, render, ← h.table hs ha]
    cases shown : target.render r with
    | error e => rfl
    | ok v =>
      simp only [ok_bind, Except.map, joinText, h.toText_table hs shown, hl, hr,
        Value.toText_text]
  | groupBy columns => simp only [map, render, listText, h.joinContents]
  | orderBy items =>
    have each := Outcome.mapM_mapped (l := items) (m := SortItem.map φ) (F := SortItem.render r)
      (G := SortItem.render r') (n := φ)
      fun i hi => h.sortItem (carried _ (List.mem_flatMap.mpr ⟨i, hi, by simp⟩)).toText
        (carried _ (List.mem_flatMap.mpr ⟨i, hi, by simp⟩))
    simp only [map, render, ← each]
    cases items.mapM (SortItem.render r) with
    | error e => rfl
    | ok vs => simp [Except.map, listText, h.joinContents]
  | limit count offset =>
    have hc := (carried count (by simp [values])).toText
    have ho := (carried offset (by simp [values])).toText
    simp only [map, render, limitText, h.isNull, hc, ho]
  | union all query =>
    have hq := (carried query (by simp [values])).toText
    simp only [map, render, unionText, hq]

end

end SelectBuilder
