import SelectBuilder.Proofs.Builder.Freezing
import SelectBuilder.Proofs.Builder.Legibility
import SelectBuilder.Proofs.Builder.Operators

/-!
# Statements that have a text

A statement has a text if and only if all of its clauses have one, and whether a clause has one is
told from the values that it holds. The entries of a list have to be texts unless an alias or a
direction makes them so; elsewhere it is enough that a value has a text.
-/
namespace SelectBuilder

open Outcome

theorem joinContents_isOk {separator : String} {vs : List Value} :
    (∃ t, joinContents separator vs = .ok t) ↔ ∀ v ∈ vs, v.isText := by
  refine ⟨?_, joinContents_of_isText separator⟩
  rintro ⟨t, joined⟩
  unfold joinContents at joined
  split at joined
  · next texts contents =>
    clear joined t
    induction vs generalizing texts with
    | nil => exact nofun
    | cons v rest ih =>
      rw [List.mapM_cons] at contents
      obtain ⟨s, first, contents⟩ := Option.bind_eq_some_iff.mp contents
      obtain ⟨others, later, -⟩ := Option.bind_eq_some_iff.mp contents
      exact List.forall_mem_cons.mpr ⟨by simp [Value.isText, first], ih others later⟩
  · cases joined

/-! ## Entries -/

section

variable (r : Resolver)

/-- With an alias a column is put together from two texts; else its name is written as it is. -/
def Column.Fits (c : Column) : Prop :=
  if c.aliasName.isTrue then c.name.HasText r ∧ c.aliasName.HasText r else c.name.isText

def Table.Fits (t : Table) : Prop :=
  t.source.HasText r ∧ (t.aliasName.isTrue → t.aliasName.HasText r)

/-- With a direction an entry is put together from two texts; else its column is written as it is.
Not every value can stand for a direction. -/
def SortItem.Fits (i : SortItem) : Prop :=
  if i.direction.isNull then i.column.isText = true
  else i.column.HasText r ∧ ∃ d, i.direction.inner = .ok d ∧ d.HasText r

end

variable {r : Resolver}

theorem Column.render_isText {c : Column} :
    (∃ v, c.render r = .ok v ∧ v.isText) ↔ c.Fits r := by
  unfold Column.render aliased Column.Fits Value.HasText
  split
  · constructor
    · rintro ⟨v, made, -⟩
      obtain ⟨n, name, made⟩ := bind_eq_ok.mp made
      obtain ⟨a, aliasName, -⟩ := bind_eq_ok.mp made
      exact ⟨⟨n, name⟩, a, aliasName⟩
    · rintro ⟨⟨n, name⟩, a, aliasName⟩
      exact ⟨.text (n ++ " AS " ++ a), by simp only [name, aliasName]; rfl, rfl⟩
  · constructor
    · rintro ⟨v, made, text⟩
      cases made
      exact text
    · exact fun text => ⟨c.name, rfl, text⟩

theorem Table.render_hasText {t : Table} :
    (∃ v, t.render r = .ok v ∧ v.HasText r) ↔ t.Fits r := by
  have written : (∃ v, t.render r = .ok v ∧ v.HasText r) ↔
      ∃ s, t.render r >>= Value.toText r = .ok s := by
    simp only [bind_eq_ok, Value.HasText]
    constructor
    · rintro ⟨v, made, s, text⟩
      exact ⟨s, v, made, text⟩
    · rintro ⟨s, v, made, text⟩
      exact ⟨v, made, s, text⟩
  rw [written, t.toText_render]
  unfold Table.Fits Value.HasText
  cases t.source.toText r with
  | error e => simp [Except.map]
  | ok s => cases t.aliasName.isTrue <;> cases t.aliasName.toText r <;> simp [Except.map]

theorem SortItem.render_isText {i : SortItem} :
    (∃ v, i.render r = .ok v ∧ v.isText) ↔ i.Fits r := by
  unfold SortItem.render SortItem.Fits Value.HasText
  split
  · constructor
    · rintro ⟨v, made, text⟩
      cases made
      exact text
    · exact fun text => ⟨i.column, rfl, text⟩
  · constructor
    · rintro ⟨v, made, -⟩
      obtain ⟨c, column, made⟩ := bind_eq_ok.mp made
      obtain ⟨w, inner, made⟩ := bind_eq_ok.mp made
      obtain ⟨d, direction, -⟩ := bind_eq_ok.mp made
      exact ⟨⟨c, column⟩, w, inner, d, direction⟩
    · rintro ⟨⟨c, column⟩, w, inner, d, direction⟩
      exact ⟨.text (c ++ " " ++ d), by simp only [column, inner, ok_bind, direction]; rfl, rfl⟩

/-! ## Clauses -/

namespace Clause

/-- The values of a clause are such that it has a text. -/
def Fits (r : Resolver) : Clause → Prop
  | select columns => ∀ c ∈ columns, c.Fits r
  | source t => t.Fits r
  | condition _ head _ => head.isText
  | join _ t left right => t.Fits r ∧ left.HasText r ∧ right.HasText r
  | groupBy columns => ∀ v ∈ columns, v.isText
  | orderBy items => ∀ i ∈ items, i.Fits r
  | limit count offset => count.HasText r ∧ (offset.isNull ∨ offset.HasText r)
  | union _ query => query.HasText r

theorem listText_isOk {keyword : String} {vs : List Value} :
    (∃ t, listText keyword vs = .ok t) ↔ ∀ v ∈ vs, v.isText := by
  refine Iff.trans ?_ (@joinContents_isOk ", " vs)
  unfold listText
  cases joinContents ", " vs <;> simp [pure, Except.pure]

/-- A list has a text if each of its entries is one. -/
theorem mapM_listText_isOk {α : Type} {f : α → Outcome Value} {keyword : String} {items : List α} :
    (∃ t, items.mapM f >>= listText keyword = .ok t) ↔
      ∀ a ∈ items, ∃ v, f a = .ok v ∧ v.isText := by
  constructor
  · rintro ⟨t, made⟩
    obtain ⟨vs, entries, joined⟩ := bind_eq_ok.mp made
    have texts := listText_isOk.mp ⟨t, joined⟩
    clear made joined
    induction items generalizing vs with
    | nil => exact nofun
    | cons a rest ih =>
      rw [List.mapM_cons] at entries
      obtain ⟨v, first, entries⟩ := bind_eq_ok.mp entries
      obtain ⟨ws, later, entries⟩ := bind_eq_ok.mp entries
      cases entries
      obtain ⟨text, texts⟩ := List.forall_mem_cons.mp texts
      exact List.forall_mem_cons.mpr ⟨⟨v, first, text⟩, ih ws later texts⟩
  · intro each
    obtain ⟨vs, entries, texts⟩ := exists_mapM each
    obtain ⟨t, joined⟩ := listText_isOk.mpr texts
    exact ⟨t, bind_eq_ok.mpr ⟨vs, entries, joined⟩⟩

/-- Whether a clause has a text is told from its values. -/
theorem render_isOk {c : Clause} : (∃ t, c.render r = .ok t) ↔ c.Fits r := by
  cases c with
  | select columns =>
    exact mapM_listText_isOk.trans (forall₂_congr fun c _ => Column.render_isText)
  | source t =>
    rw [Fits, ← Table.render_hasText]
    simp only [render, sourceText, Value.HasText]
    cases t.render r with
    | error e => simp
    | ok v => cases text : v.toText r <;> simp [text, pure, Except.pure]
  | condition kind head parts =>
    refine joinContents_isOk.trans ⟨fun texts => texts head (by simp), fun text => ?_⟩
    refine List.forall_mem_cons.mpr ⟨rfl, List.forall_mem_cons.mpr ⟨text, fun v hv => ?_⟩⟩
    obtain ⟨part, -, rfl⟩ := List.mem_map.mp hv
    rfl
  | join joinType t left right =>
    rw [Fits, ← Table.render_hasText]
    simp only [render, joinText, Value.HasText, Value.toText_text, ok_bind]
    cases t.render r with
    | error e => simp
    | ok v =>
      cases text : v.toText r <;> cases left.toText r <;> cases right.toText r <;>
        simp [text, pure, Except.pure]
  | groupBy columns => exact listText_isOk
  | orderBy items =>
    exact mapM_listText_isOk.trans (forall₂_congr fun i _ => SortItem.render_isText)
  | limit count offset =>
    simp only [render, limitText, Fits, Value.HasText]
    cases offset.isNull <;> cases count.toText r <;> cases offset.toText r <;>
      simp [pure, Except.pure]
  | union all query =>
    simp only [render, unionText, Fits, Value.HasText]
    cases query.toText r <;> simp [pure, Except.pure]

/-- An operator neither gives a condition a text nor takes it away. -/
@[simp] theorem fits_extend (part : String) (c : Clause) : (c.extend part).Fits r ↔ c.Fits r := by
  cases c <;> rfl

end Clause

/-! ## Builders -/

namespace Builder

def Fits (r : Resolver) (b : Builder) : Prop := ∀ c ∈ b.clauses, c.Fits r

theorem render_isOk {b : Builder} : (∃ sql, b.render r = .ok sql) ↔ b.Fits r := by
  have texts : b.Fits r ↔ ∃ ts, b.clauses.mapM (Clause.render r) = .ok ts :=
    (forall₂_congr fun c _ => Clause.render_isOk.symm).trans mapM_isOk.symm
  rw [texts, render]
  cases b.clauses.mapM (Clause.render r) <;> simp [pure, Except.pure]

theorem fresh_fits (config : Nat) : ({ config := config } : Builder).Fits r := nofun

theorem current?_fits {b : Builder} (h : b.Fits r) {c : Clause} (current : b.current? = some c) :
    c.Fits r := by
  obtain ⟨place, -, found⟩ := Option.bind_eq_some_iff.mp current
  exact h c (List.mem_of_getElem? found)

/-- All that can go wrong with a change is the clause that it adds. -/
theorem fits_apply {b : Builder} {change : Change} {strict : Bool} :
    (b.apply strict change).Fits r ↔
      b.Fits r ∧ ∀ clause, change = .append clause → clause.Fits r := by
  cases change with
  | append c =>
    simp [Fits, clauses_apply_append, or_imp, forall_and]
  | extend op part stage =>
    have same : (b.apply strict (.extend op part stage)).clauses.map (Clause.Fits r) =
        b.clauses.map (Clause.Fits r) := by
      cases cursor : b.cursor with
      | none => simp [Builder.apply, enter, settle, Builder.extend, cursor]
      | some i =>
        rw [clauses_apply_extend cursor]
        exact Clause.map_modify (fun c => propext (Clause.fits_extend part c)) b.clauses i
    have each (d : Builder) : d.Fits r ↔ ∀ p ∈ d.clauses.map (Clause.Fits r), p :=
      (List.forall_mem_map (P := id)).symm
    simp [each, same]

end Builder

end SelectBuilder
