import SelectBuilder.Proofs.Outcome
import SelectBuilder.Proofs.Store.Relocation

/-!
# Legible clauses

A legible clause is made of texts, whole numbers and statements, with statements only where any
value may stand. Whether it can be written depends on nothing but the texts of the statements that
it keeps: it is written around them, and fails only where one of them fails.
-/
namespace SelectBuilder

open Outcome

/-! ## Outcomes made of texts -/

/-- What is made once it is known how references are shown is made of the texts of some statements
alone: it fails as the first of these does, and is a function of them otherwise. -/
def MadeOf {α : Type} (P : α → Prop) (ids : List Nat) (F : Resolver → Outcome α) : Prop :=
  ∃ f : List String → α, (∀ ts, P (f ts)) ∧ ∀ r, F r = (ids.mapM r.statement).map f

namespace MadeOf

variable {α β : Type} {P : α → Prop} {Q : β → Prop} {ids more : List Nat}

theorem const {a : α} (h : P a) : MadeOf P [] fun _ => .ok a :=
  ⟨fun _ => a, fun _ => h, fun _ => rfl⟩

theorem statement (id : Nat) : MadeOf (fun _ => True) [id] fun r => r.statement id := by
  refine ⟨fun ts => ts.headD "", fun _ => trivial, fun r => ?_⟩
  show r.statement id = _
  rw [List.mapM_cons, List.mapM_nil]
  cases r.statement id <;> rfl

theorem length_mapM {f : α → Outcome β} {items : List α} {made : List β}
    (h : items.mapM f = .ok made) : made.length = items.length := by
  induction items generalizing made with
  | nil =>
    cases h
    rfl
  | cons a rest ih =>
    rw [List.mapM_cons] at h
    obtain ⟨b, -, h⟩ := bind_eq_ok.mp h
    obtain ⟨bs, others, h⟩ := bind_eq_ok.mp h
    cases h
    rw [List.length_cons, List.length_cons, ih others]

/-- First the one texts are read, and then the others. -/
theorem bind {F : Resolver → Outcome α} {G : α → Resolver → Outcome β} (hF : MadeOf P ids F)
    (hG : ∀ a, P a → MadeOf Q more (G a)) : MadeOf Q (ids ++ more) fun r => F r >>= (G · r) := by
  obtain ⟨f, hf, first⟩ := hF
  choose g hg next using fun ts => hG (f ts) (hf ts)
  refine ⟨fun ts => g (ts.take ids.length) (ts.drop ids.length), fun ts => hg _ _, fun r => ?_⟩
  simp only [first, List.mapM_append]
  cases texts : ids.mapM r.statement with
  | error e => rfl
  | ok ts =>
    have length := length_mapM texts
    simp only [Except.map, ok_bind, next]
    cases more.mapM r.statement with
    | error e => rfl
    | ok us => simp [Except.map, Functor.map, ← length]

theorem map {F : Resolver → Outcome α} (hF : MadeOf P ids F) {g : α → β} (hg : ∀ a, P a → Q (g a)) :
    MadeOf Q ids fun r => (F r).map g := by
  obtain ⟨f, hf, made⟩ := hF
  refine ⟨g ∘ f, fun ts => hg _ (hf ts), fun r => ?_⟩
  simp only [made]
  cases ids.mapM r.statement <;> rfl

theorem mapM {γ : Type} {F : γ → Resolver → Outcome α} {read : γ → List Nat} {items : List γ}
    (h : ∀ x ∈ items, MadeOf P (read x) (F x)) :
    MadeOf (fun made => ∀ a ∈ made, P a) (items.flatMap read) fun r => items.mapM (F · r) := by
  induction items with
  | nil => exact const nofun
  | cons x rest ih =>
    obtain ⟨first, others⟩ := List.forall_mem_cons.mp h
    simp only [List.mapM_cons, List.flatMap_cons]
    refine first.bind fun a ha => (ih others).map (g := (a :: ·)) fun as has => ?_
    exact List.forall_mem_cons.mpr ⟨ha, has⟩

theorem congr {F G : Resolver → Outcome α} (hF : MadeOf P ids F) (same : ∀ r, G r = F r) :
    MadeOf P ids G := by
  rwa [funext same]

/-- What is always made, and always the same, is made of no texts. -/
theorem fixed {F : Resolver → Outcome α} (made : ∀ r, ∃ a, F r = .ok a)
    (same : ∀ r r', F r = F r') : MadeOf (fun _ => True) [] F := by
  choose f hf using made
  let r : Resolver := ⟨fun _ => .ok "", fun _ => .ok ""⟩
  exact (const (a := f r) trivial).congr fun r' => (same r' r).trans (hf r)

end MadeOf

/-! ## Pieces -/

/-- The statements among some objects. -/
def statements (refs : List Reference) : List Nat := refs.filterMap Reference.builder?

namespace Value

/-- A text, a whole number, nothing, or a statement. -/
def IsPiece : Value → Prop
  | null => True
  | int _ => True
  | reference (.builder _) => True
  | v => v.isText

theorem IsPiece.relocate {v : Value} (h : v.IsPiece) (f g : Nat → Nat) :
    (v.relocate (Reference.map f g)).IsPiece := by
  cases v with
  | reference x =>
    cases x with
    | builder id => trivial
    | config k => cases h
  | _ => exact h

theorem isText_relocate {F : Reference → Reference} {v : Value} (h : v.isText) :
    (v.relocate F).isText := by
  simpa [isText] using h

theorem references_of_isText {v : Value} (h : v.isText) : v.references = [] := by
  cases v <;> first | rfl | cases h

/-- The text of a text does not depend on how references are shown. -/
theorem toText_of_isText {v : Value} (h : v.isText) : ∃ t, ∀ r, v.toText r = .ok t := by
  cases v <;> first | exact ⟨_, fun _ => rfl⟩ | cases h

theorem IsPiece.toText_madeOf {v : Value} (h : v.IsPiece) :
    MadeOf (fun _ => True) (statements v.references) fun r => v.toText r := by
  cases v with
  | null | int i | text s | joinType t | direction d => exact .const trivial
  | reference x =>
    cases x with
    | builder id => exact .statement id
    | config k => cases h
  | _ => cases h

/-- A piece that counts as false refers to nothing. -/
theorem IsPiece.references_of_false {v : Value} (h : v.IsPiece) (none : v.isTrue = false) :
    v.references = [] := by
  cases v with
  | reference x => cases none
  | null | int i | text s | joinType t | direction d => rfl
  | _ => cases h

end Value

theorem joinContents_of_isText (separator : String) {vs : List Value} (h : ∀ v ∈ vs, v.isText) :
    ∃ t, joinContents separator vs = .ok t := by
  obtain ⟨texts, known⟩ : ∃ texts, vs.mapM Value.content? = some texts := by
    induction vs with
    | nil => exact ⟨[], rfl⟩
    | cons v rest ih =>
      obtain ⟨first, others⟩ := List.forall_mem_cons.mp h
      obtain ⟨s, text⟩ := Option.isSome_iff_exists.mp first
      obtain ⟨texts, known⟩ := ih others
      exact ⟨s :: texts, by simp [List.mapM_cons, text, known]⟩
  exact ⟨_, by rw [joinContents, known]⟩

/-! ## Entries of clauses -/

theorem Column.render_madeOf {c : Column} (name : c.name.isText) (aliasName : c.aliasName.IsPiece) :
    MadeOf (fun v : Value => v.isText) (statements (c.name.references ++ c.aliasName.references))
      fun r => c.render r := by
  obtain ⟨t, text⟩ := Value.toText_of_isText name
  rw [Value.references_of_isText name, List.nil_append]
  cases filled : c.aliasName.isTrue with
  | true =>
    have made := aliasName.toText_madeOf.map (Q := fun v : Value => v.isText)
      (g := fun a => .text (t ++ " AS " ++ a)) fun _ _ => rfl
    refine made.congr fun r => ?_
    simp only [Column.render, aliased, filled, text, if_true, ok_bind]
    cases c.aliasName.toText r <;> rfl
  | false =>
    rw [aliasName.references_of_false filled]
    refine MadeOf.congr (F := fun _ => .ok c.name) (.const name) fun r => ?_
    simp [Column.render, aliased, filled, pure, Except.pure]

/-- The text of a table: its source, between parentheses if it is a subquery, and its alias. -/
theorem Table.toText_render (r : Resolver) (t : Table) :
    t.render r >>= Value.toText r =
      ((t.source.toText r).map fun s => if t.isSubquery.isTrue then "( " ++ s ++ " )" else s) >>=
        fun s => if t.aliasName.isTrue then (t.aliasName.toText r).map fun a => s ++ " AS " ++ a
          else .ok s := by
  unfold Table.render aliased
  cases t.isSubquery.isTrue <;> cases t.aliasName.isTrue <;>
    cases source : t.source.toText r <;> cases t.aliasName.toText r <;>
    simp [source, pure, Except.pure, Except.map, bind, Except.bind]

theorem Table.toText_madeOf {t : Table} (source : t.source.IsPiece)
    (aliasName : t.aliasName.IsPiece) (flag : t.isSubquery.references = []) :
    MadeOf (fun _ => True) (statements t.references) fun r => t.render r >>= Value.toText r := by
  have parts : statements t.references =
      statements t.source.references ++ statements t.aliasName.references := by
    simp [references, flag, statements]
  rw [parts]
  refine MadeOf.congr (.bind (source.toText_madeOf.map (Q := fun _ => True) fun _ _ => trivial)
    fun s _ => ?_) (fun r => t.toText_render r)
  cases filled : t.aliasName.isTrue with
  | true =>
    simp only [if_true]
    exact aliasName.toText_madeOf.map fun _ _ => trivial
  | false =>
    rw [aliasName.references_of_false filled]
    exact .const trivial

theorem SortItem.render_of_isText {i : SortItem} (column : i.column.isText)
    (direction : i.direction = .null ∨ ∃ d, i.direction = .direction d) (r : Resolver) :
    ∃ v : Value, i.render r = .ok v ∧ v.isText := by
  obtain ⟨t, text⟩ := Value.toText_of_isText column
  unfold SortItem.render
  rcases direction with same | ⟨d, same⟩
  · exact ⟨i.column, by simp [same, Value.isNull, pure, Except.pure], column⟩
  · simp only [same, text, Value.isNull, ok_bind]
    exact ⟨_, rfl, rfl⟩

namespace Clause

/-- The places of a clause for statements hold pieces, and all others hold texts. -/
def Legible : Clause → Prop
  | select columns => ∀ c ∈ columns, c.name.isText ∧ c.aliasName.IsPiece
  | source t => t.source.IsPiece ∧ t.aliasName.IsPiece ∧ t.isSubquery.references = []
  | condition _ head _ => head.isText
  | join _ t left right =>
    t.source.isText ∧ t.aliasName.isText ∧ t.isSubquery.references = [] ∧ left.isText ∧ right.isText
  | groupBy columns => ∀ v ∈ columns, v.isText
  | orderBy items =>
    ∀ i ∈ items, i.column.isText ∧ (i.direction = .null ∨ ∃ d, i.direction = .direction d)
  | limit count offset => count.IsPiece ∧ offset.IsPiece
  | union _ query => query.isText

theorem Legible.extend {c : Clause} (h : c.Legible) (part : String) : (c.extend part).Legible := by
  cases c <;> exact h

theorem Legible.relocate {c : Clause} (h : c.Legible) (f g : Nat → Nat) :
    (c.relocate (Reference.map f g)).Legible := by
  cases c with
  | select columns =>
    intro c hc
    obtain ⟨d, hd, rfl⟩ := List.mem_map.mp hc
    exact ⟨Value.isText_relocate (h d hd).1, (h d hd).2.relocate f g⟩
  | source t =>
    obtain ⟨source, aliasName, flag⟩ := h
    exact ⟨source.relocate f g, aliasName.relocate f g, by simp [Table.relocate, flag]⟩
  | condition kind head parts => exact Value.isText_relocate h
  | join j t left right =>
    obtain ⟨source, aliasName, flag, hl, hr⟩ := h
    exact ⟨Value.isText_relocate source, Value.isText_relocate aliasName,
      by simp [Table.relocate, flag], Value.isText_relocate hl, Value.isText_relocate hr⟩
  | groupBy columns =>
    intro v hv
    obtain ⟨w, hw, rfl⟩ := List.mem_map.mp hv
    exact Value.isText_relocate (h w hw)
  | orderBy items =>
    intro i hi
    obtain ⟨j, hj, rfl⟩ := List.mem_map.mp hi
    obtain ⟨column, direction⟩ := h j hj
    refine ⟨Value.isText_relocate column, ?_⟩
    rcases direction with same | ⟨d, same⟩
    · exact .inl (by simp [SortItem.relocate, same, Value.relocate])
    · exact .inr ⟨d, by simp [SortItem.relocate, same, Value.relocate]⟩
  | limit count offset => exact ⟨h.1.relocate f g, h.2.relocate f g⟩
  | union all query => exact Value.isText_relocate h

/-- The kinds of clauses that have a place for statements. -/
def mayKeep : Clause → Bool
  | select _ => true
  | source _ => true
  | limit _ _ => true
  | _ => false

/-- Any other legible clause is made of texts alone. -/
theorem Legible.references_of_other {c : Clause} (h : c.Legible) (other : c.mayKeep = false) :
    c.references = [] := by
  cases c with
  | condition kind head parts => exact Value.references_of_isText h
  | join j t left right =>
    obtain ⟨source, aliasName, flag, hl, hr⟩ := h
    simp [references, Table.references, Value.references_of_isText, source, aliasName, flag, hl, hr]
  | groupBy columns =>
    exact List.flatMap_eq_nil_iff.mpr fun v hv => Value.references_of_isText (h v hv)
  | orderBy items =>
    refine List.flatMap_eq_nil_iff.mpr fun i hi => ?_
    obtain ⟨column, direction⟩ := h i hi
    rcases direction with same | ⟨d, same⟩ <;> simp [same, Value.references_of_isText column]
  | union all query => exact Value.references_of_isText h
  | _ => cases other

/-- It can be written whatever the statements are. -/
theorem Legible.render_of_other {c : Clause} (h : c.Legible) (other : c.mayKeep = false)
    (r : Resolver) : ∃ t, c.render r = .ok t := by
  cases c with
  | condition kind head parts =>
    refine joinContents_of_isText " "
      (List.forall_mem_cons.mpr ⟨rfl, List.forall_mem_cons.mpr ⟨h, ?_⟩⟩)
    intro v hv
    obtain ⟨part, -, rfl⟩ := List.mem_map.mp hv
    rfl
  | join j t left right =>
    obtain ⟨source, aliasName, -, hl, hr⟩ := h
    obtain ⟨s, source⟩ := Value.toText_of_isText source
    obtain ⟨a, aliasName⟩ := Value.toText_of_isText aliasName
    obtain ⟨l, left'⟩ := Value.toText_of_isText hl
    obtain ⟨u, right'⟩ := Value.toText_of_isText hr
    obtain ⟨target, written⟩ : ∃ target, t.render r >>= Value.toText r = .ok target := by
      rw [t.toText_render, source r, aliasName r]
      cases t.aliasName.isTrue <;> exact ⟨_, rfl⟩
    obtain ⟨v, made, text⟩ := bind_eq_ok.mp written
    simp only [render, joinText, made, ok_bind, Value.toText_text, text, left', right']
    exact ⟨_, rfl⟩
  | groupBy columns =>
    obtain ⟨t, joined⟩ := joinContents_of_isText ", " h
    simp only [render, listText, joined]
    exact ⟨_, rfl⟩
  | orderBy items =>
    obtain ⟨vs, made, texts⟩ := exists_mapM fun i hi =>
      SortItem.render_of_isText (h i hi).1 (h i hi).2 r
    obtain ⟨t, joined⟩ := joinContents_of_isText ", " texts
    simp only [render, listText, made, ok_bind, joined]
    exact ⟨_, rfl⟩
  | union all query =>
    obtain ⟨t, text⟩ := Value.toText_of_isText h
    simp only [render, unionText, text]
    exact ⟨_, rfl⟩
  | _ => cases other

/-- A legible clause is written around the texts of the statements that it keeps. -/
theorem Legible.render_madeOf {c : Clause} (h : c.Legible) :
    MadeOf (fun _ => True) (statements c.references) fun r => c.render r := by
  cases c with
  | select columns =>
    have parts : statements (select columns).references =
        (columns.flatMap fun c => statements (c.name.references ++ c.aliasName.references)) ++
          [] := by
      simp [references, statements, List.filterMap_flatMap]
    rw [parts]
    refine MadeOf.bind (.mapM fun c hc => Column.render_madeOf (h c hc).1 (h c hc).2)
      fun entries texts => ?_
    obtain ⟨t, joined⟩ := joinContents_of_isText ", " texts
    simp only [listText, joined]
    exact .const trivial
  | source t =>
    obtain ⟨source, aliasName, flag⟩ := h
    refine ((Table.toText_madeOf source aliasName flag).map (Q := fun _ => True)
      (g := ("FROM " ++ ·)) fun _ _ => trivial).congr fun r => ?_
    simp only [render, sourceText]
    cases t.render r with
    | error e => rfl
    | ok v => cases h : v.toText r <;> simp [h, pure, Except.pure, Except.map]
  | limit count offset =>
    have parts : statements (limit count offset).references =
        statements count.references ++ statements offset.references := by
      simp [references, statements]
    rw [parts]
    have first := h.1.toText_madeOf
    have second := h.2.toText_madeOf
    by_cases absent : offset.isNull = true
    · obtain rfl : offset = .null := by cases offset <;> first | rfl | cases absent
      refine (first.bind (Q := fun _ => True) (G := fun c _ => .ok ("LIMIT " ++ c))
        fun _ _ => .const trivial).congr fun r => ?_
      rfl
    · refine (first.bind (Q := fun _ => True)
        (G := fun c r => (offset.toText r).map fun o => "LIMIT " ++ c ++ " OFFSET " ++ o)
        fun _ _ => second.map fun _ _ => trivial).congr fun r => ?_
      simp only [render, limitText, absent]
      cases count.toText r with
      | error e => rfl
      | ok c => cases offset.toText r <;> rfl
  | _ =>
    rw [h.references_of_other rfl]
    refine .fixed (fun r => h.render_of_other rfl r) fun r r' => render_congr _ ?_
    rw [h.references_of_other rfl]
    exact .nil r r'

end Clause

/-! ## Legible builders -/

namespace Builder

def Legible (b : Builder) : Prop := ∀ c ∈ b.clauses, c.Legible

theorem fresh_legible (config : Nat) : ({ config := config } : Builder).Legible := nofun

theorem Legible.relocate {b : Builder} (h : b.Legible) (f g : Nat → Nat) :
    (Store.relocateBuilder (Reference.map f g) b).Legible := by
  intro c hc
  obtain ⟨d, hd, rfl⟩ := List.mem_map.mp hc
  exact (h d hd).relocate f g

theorem Legible.apply {b : Builder} (h : b.Legible) {change : Change}
    (new : ∀ c, change = .append c → c.Legible) (strict : Bool) :
    (b.apply strict change).Legible := by
  cases change with
  | append c =>
    intro d hd
    rcases List.mem_append.mp hd with old | last
    · exact h d old
    · obtain rfl := List.mem_singleton.mp last
      exact new d rfl
  | extend op part stage =>
    intro d hd
    simp only [Builder.apply, enter, settle, extend] at hd
    split at hd
    · obtain ⟨i, found⟩ := List.mem_iff_getElem?.mp hd
      rw [List.getElem?_modify] at found
      obtain ⟨c, old, rfl⟩ := Option.map_eq_some_iff.mp found
      split
      · exact (h c (List.mem_of_getElem? old)).extend part
      · exact h c (List.mem_of_getElem? old)
    · exact h d hd

/-- A legible builder is written around the texts of the statements that it keeps. -/
theorem Legible.render_madeOf {b : Builder} (h : b.Legible) :
    MadeOf (fun _ => True) (statements b.references) fun r => b.render r := by
  have parts : statements b.references = b.clauses.flatMap fun c => statements c.references := by
    simp [references, statements, List.filterMap_flatMap]
  rw [parts]
  exact ((MadeOf.mapM fun c hc => (h c hc).render_madeOf).map (Q := fun _ => True)
    (g := String.intercalate " ") fun _ _ => trivial).congr fun r => rfl

end Builder

end SelectBuilder
