import SelectBuilder.Proofs.Builder.CallText
import SelectBuilder.Proofs.Builder.Embedding
import SelectBuilder.Proofs.Text.Listing

/-!
# Entries of lists

A column with an alias, and a column with a direction, can be written down in several ways. All of
them are understood alike, so that the entries of a list tell the plan of the call and the text of
its clause.
-/
namespace SelectBuilder

open Outcome

namespace Value

/-- The ways to write down a column, with an alias or without one. Only what counts as true can be
an alias. -/
inductive SpellsColumn : Value → String × Option String → Prop where
  | name (n : String) : SpellsColumn (text n) (n, none)
  | alone {make : List Value → Value} (pairs : Pairs make) (n : String) :
      SpellsColumn (make [text n]) (n, none)
  | unaliased {make : List Value → Value} (pairs : Pairs make) (n : String) {a : Value}
      (absent : a.isTrue = false) : SpellsColumn (make [text n, a]) (n, none)
  | aliased {make : List Value → Value} (pairs : Pairs make) (n : String) {a : String}
      (filled : a ≠ "") : SpellsColumn (make [text n, text a]) (n, some a)
  | bareDescriptor (n : String) {a : Value} (absent : a.isTrue = false) :
      SpellsColumn (column (text n) a) (n, none)
  | descriptor (n : String) {a : String} (filled : a ≠ "") :
      SpellsColumn (column (text n) (text a)) (n, some a)

/-- The ways to write down a column to order by, with a direction or without one. -/
inductive SpellsOrdering : Value → String × Option SortDirection → Prop where
  | name (c : String) : SpellsOrdering (text c) (c, none)
  | alone {make : List Value → Value} (pairs : Pairs make) (c : String) :
      SpellsOrdering (make [text c]) (c, none)
  | undirected {make : List Value → Value} (pairs : Pairs make) (c : String) {d : Value}
      (absent : d = null ∨ d = text "") : SpellsOrdering (make [text c, d]) (c, none)
  | directed {make : List Value → Value} (pairs : Pairs make) (c : String) {t : String}
      {d : SortDirection} (word : Text.upper t = d.word) :
      SpellsOrdering (make [text c, text t]) (c, some d)
  | member {make : List Value → Value} (pairs : Pairs make) (c : String) (d : SortDirection) :
      SpellsOrdering (make [text c, direction d]) (c, some d)
  | bareDescriptor (c : String) : SpellsOrdering (order (text c) null) (c, none)
  | descriptor (c : String) (d : SortDirection) :
      SpellsOrdering (order (text c) (direction d)) (c, some d)

/-- The operands are the same, or they are ways to write down one column. -/
def SameColumn (v w : Value) : Prop := v = w ∨ ∃ e, v.SpellsColumn e ∧ w.SpellsColumn e

def SameOrdering (v w : Value) : Prop := v = w ∨ ∃ e, v.SpellsOrdering e ∧ w.SpellsOrdering e

end Value

/-- The column is the one of an entry. An alias that is empty is as good as none. -/
structure Column.Holds (c : Column) (e : String × Option String) : Prop where
  name : c.name = .text e.1
  aliasName : c.aliasName.orNull = e.2.elim .null .text

/-- The item of an ORDER BY list with the parts of an entry. -/
def SortItem.ofEntry (e : String × Option SortDirection) : SortItem :=
  ⟨.text e.1, e.2.elim .null .direction⟩

def columnWords : String × Option String → List String
  | (n, none) => [n]
  | (n, some a) => [n, "AS", a]

def orderingWords : String × Option SortDirection → List String
  | (c, none) => [c]
  | (c, some d) => [c, d.word]

theorem columnWords_injective : Function.Injective columnWords := by
  rintro ⟨n, _ | a⟩ ⟨m, _ | b⟩ same <;> simp_all [columnWords]

theorem SortDirection.word_injective : Function.Injective SortDirection.word := by
  intro d e same
  cases d <;> cases e <;> first | rfl | exact absurd same (by decide)

theorem orderingWords_injective : Function.Injective orderingWords := by
  rintro ⟨c, _ | d⟩ ⟨b, _ | e⟩ same <;>
    simp_all [orderingWords, SortDirection.word_injective.eq_iff]

namespace Value

variable {v : Value} {r : Resolver}

/-! ## What is understood -/

theorem toColumn?_text (n : String) :
    (text n).toColumn? = if n = "" then none else some ⟨text n, null⟩ := by
  by_cases empty : n = "" <;> simp [toColumn?, isText, content?, empty]

theorem toColumn?_single {make : List Value → Value} (pairs : Pairs make) (n : String) :
    (make [text n]).toColumn? = if n = "" then none else some ⟨text n, null⟩ := by
  rcases pairs with rfl | rfl <;> by_cases empty : n = "" <;>
    simp [toColumn?, isText, content?, sequence?, empty]

theorem toColumn?_pair {make : List Value → Value} (pairs : Pairs make) (n : String) (a : Value) :
    (make [text n, a]).toColumn? = if n = "" then none else some ⟨text n, a.orNull⟩ := by
  rcases pairs with rfl | rfl <;> by_cases empty : n = "" <;>
    simp [toColumn?, isText, content?, sequence?, empty]

theorem toColumn?_descriptor (n : String) (a : Value) :
    (column (text n) a).toColumn? = if n = "" then none else some ⟨text n, a⟩ := by
  by_cases empty : n = "" <;> simp [toColumn?, empty]

theorem orNull_of_false {v : Value} (absent : v.isTrue = false) : v.orNull = null := by
  simp [orNull, absent]

theorem orNull_text {s : String} (filled : s ≠ "") : (text s).orNull = text s := by
  simp [orNull, filled]

/-- A name that is not empty is understood as the column that it spells, and an empty one is not
understood. -/
theorem SpellsColumn.toColumn? {e : String × Option String} (h : v.SpellsColumn e) :
    ∃ c : Column, v.toColumn? = (if e.1 = "" then none else some c) ∧ c.Holds e := by
  cases h with
  | name n => exact ⟨_, toColumn?_text n, rfl, rfl⟩
  | alone pairs n => exact ⟨_, toColumn?_single pairs n, rfl, rfl⟩
  | unaliased pairs n absent =>
    exact ⟨_, toColumn?_pair pairs n _, rfl, by rw [orNull_of_false absent]; rfl⟩
  | aliased pairs n filled =>
    exact ⟨_, toColumn?_pair pairs n _, rfl, by rw [orNull_text filled]; exact orNull_text filled⟩
  | bareDescriptor n absent => exact ⟨_, toColumn?_descriptor n _, rfl, orNull_of_false absent⟩
  | descriptor n filled => exact ⟨_, toColumn?_descriptor n _, rfl, orNull_text filled⟩

theorem toSortItem?_text (c : String) :
    (text c).toSortItem? r = .ok (if c = "" then none else some ⟨text c, null⟩) := by
  by_cases empty : c = "" <;> simp [toSortItem?, isText, content?, empty]

theorem toSortItem?_single {make : List Value → Value} (pairs : Pairs make) (c : String) :
    (make [text c]).toSortItem? r = .ok (if c = "" then none else some ⟨text c, null⟩) := by
  rcases pairs with rfl | rfl <;> by_cases empty : c = "" <;>
    simp [toSortItem?, isText, content?, sequence?, empty]

/-- The direction of a pair is looked at if the column is not empty. -/
theorem toSortItem?_of_sequence {c d : Value} (sequence : v.sequence? = some [c, d]) :
    v.toSortItem? r =
      if c.isName then (d.toDirection? r).map (Option.map fun d => ⟨c, d⟩) else .ok none := by
  cases v with
  | list items | tuple items =>
    cases sequence
    by_cases name : c.isName
    · simp only [toSortItem?, isText, content?, sequence?, name]
      cases d.toDirection? r <;> rfl
    · simp [toSortItem?, isText, content?, sequence?, name, pure, Except.pure]
  | _ => cases sequence

theorem toSortItem?_pair {make : List Value → Value} (pairs : Pairs make) (c : String)
    {d d' : Value} (understood : d.toDirection? r = .ok (some d')) :
    (make [text c, d]).toSortItem? r = .ok (if c = "" then none else some ⟨text c, d'⟩) := by
  have sequence : (make [text c, d]).sequence? = some [text c, d] := by
    rcases pairs with rfl | rfl <;> rfl
  rw [toSortItem?_of_sequence sequence, understood]
  by_cases empty : c = "" <;> simp [empty, Except.map]

theorem toSortItem?_descriptor (c : String) (d : Value) :
    (order (text c) d).toSortItem? r = .ok (if c = "" then none else some ⟨text c, d⟩) := by
  by_cases empty : c = "" <;> simp [toSortItem?, empty]

theorem toDirection?_word {t : String} {d : SortDirection} (word : Text.upper t = d.word) :
    (text t).toDirection? r = .ok (some (direction d)) := by
  have filled : t ≠ "" := by
    rintro rfl
    exact absurd word (by cases d <;> decide)
  simp [toDirection?_text r filled, word]

/-- All ways to write an ordering down are understood as the same one. -/
theorem SpellsOrdering.toSortItem? {e : String × Option SortDirection} (h : v.SpellsOrdering e)
    (r : Resolver) :
    v.toSortItem? r = .ok (if e.1 = "" then none else some (SortItem.ofEntry e)) := by
  cases h with
  | name c => exact toSortItem?_text c
  | alone pairs c => exact toSortItem?_single pairs c
  | undirected pairs c absent =>
    refine toSortItem?_pair pairs c ?_
    rcases absent with rfl | rfl <;> rfl
  | directed pairs c word => exact toSortItem?_pair pairs c (toDirection?_word word)
  | member pairs c d => exact toSortItem?_pair pairs c rfl
  | bareDescriptor c => exact toSortItem?_descriptor c null
  | descriptor c d => exact toSortItem?_descriptor c (direction d)

end Value

/-! ## What is written -/

theorem phrase_alias (n a : String) : Text.phrase [n, "AS", a] = n ++ " AS " ++ a := by
  refine String.toList_inj.mp ?_
  simp [Text.phrase]

theorem Column.Holds.render {c : Column} {e : String × Option String} (h : c.Holds e)
    (r : Resolver) : c.render r = .ok (.text (Text.phrase (columnWords e))) := by
  obtain ⟨n, a⟩ := e
  obtain ⟨name, aliasName⟩ := c
  obtain ⟨rfl, shown⟩ := h
  show aliased r (.text n) aliasName = _
  unfold aliased
  cases a with
  | none =>
    have absent : ¬aliasName.isTrue := by
      intro present
      obtain rfl : aliasName = .null := (if_pos present).symm.trans shown
      cases present
    rw [if_neg absent]
    simp [columnWords, Text.phrase, pure, Except.pure]
  | some a =>
    have present : aliasName.isTrue := by
      by_contra absent
      rw [Value.orNull, if_neg absent] at shown
      cases shown
    obtain rfl : aliasName = .text a := (if_pos present).symm.trans shown
    rw [if_pos present, columnWords, phrase_alias]
    rfl

theorem SortItem.render_ofEntry (e : String × Option SortDirection) (r : Resolver) :
    (SortItem.ofEntry e).render r = .ok (.text (Text.phrase (orderingWords e))) := by
  obtain ⟨c, _ | d⟩ := e
  · simp [SortItem.render, SortItem.ofEntry, Value.isNull, orderingWords, Text.phrase, pure,
      Except.pure]
  · simp [SortItem.render, SortItem.ofEntry, Value.isNull, Value.inner, Value.inner?,
      orderingWords, Text.phrase, pure, Except.pure]

namespace Builder

theorem render_select {cs : List Column} {es : List (String × Option String)}
    (held : List.Forall₂ Column.Holds cs es) (r : Resolver) :
    (Clause.select cs).render r = .ok ("SELECT " ++ Text.listing (es.map columnWords)) := by
  have texts : cs.mapM (Column.render r) =
      .ok ((es.map fun e => Text.phrase (columnWords e)).map .text) := by
    induction held with
    | nil => rfl
    | cons first _ ih =>
      rw [List.mapM_cons, first.render r, ih]
      rfl
  rw [Clause.render, texts, ok_bind, Clause.listText_texts, Text.listing, List.map_map]
  rfl

theorem render_orderBy (es : List (String × Option SortDirection)) (r : Resolver) :
    (Clause.orderBy (es.map SortItem.ofEntry)).render r =
      .ok ("ORDER BY " ++ Text.listing (es.map orderingWords)) := by
  have texts : (es.map SortItem.ofEntry).mapM (SortItem.render r) =
      .ok ((es.map fun e => Text.phrase (orderingWords e)).map .text) := by
    induction es with
    | nil => rfl
    | cons e es ih =>
      rw [List.map_cons, List.mapM_cons, SortItem.render_ofEntry, ih]
      rfl
  rw [Clause.render, texts, ok_bind, Clause.listText_texts, Text.listing, List.map_map]
  rfl

theorem render_groupBy (ns : List String) (r : Resolver) :
    (Clause.groupBy (ns.map .text)).render r =
      .ok ("GROUP BY " ++ Text.listing (ns.map fun n => [n])) := by
  rw [Clause.render, Clause.listText_texts, Text.listing, List.map_map]
  simp [Function.comp_def, Text.phrase]

/-- The columns that were understood are those of the entries, in their order. -/
theorem holds_of_mapM {vs : List Value} {es : List (String × Option String)}
    (spelled : List.Forall₂ Value.SpellsColumn vs es) {cs : List Column}
    (made : vs.mapM Value.toColumn? = some cs) : List.Forall₂ Column.Holds cs es := by
  induction spelled generalizing cs with
  | nil =>
    cases made
    exact .nil
  | cons first _ ih =>
    rw [List.mapM_cons] at made
    obtain ⟨c, known, made⟩ := Option.bind_eq_some_iff.mp made
    obtain ⟨later, others, made⟩ := Option.bind_eq_some_iff.mp made
    cases made
    obtain ⟨c', understood, holds⟩ := first.toColumn?
    rw [understood] at known
    split at known
    · cases known
    · cases known
      exact .cons holds (ih others)

theorem sortItems_entries {r : Resolver} {vs : List Value}
    {es : List (String × Option SortDirection)}
    (spelled : List.Forall₂ Value.SpellsOrdering vs es) {items : List SortItem}
    (made : sortItems r vs = .ok items) : items = es.map SortItem.ofEntry := by
  induction spelled generalizing items with
  | nil =>
    cases made
    rfl
  | cons first _ ih =>
    obtain ⟨item?, known, made⟩ := bind_eq_ok.mp made
    rw [first.toSortItem? r] at known
    split at known
    · cases known
      cases made
    · cases known
      obtain ⟨later, others, made⟩ := bind_eq_ok.mp made
      cases made
      rw [ih others]
      rfl

/-! ## What can be interchanged -/

/-- Two columns that were written down alike are rendered alike, or neither is understood. -/
theorem toColumn?_same {v w : Value} (same : v.SameColumn w) :
    (v.toColumn? = none ∧ w.toColumn? = none) ∨
      ∃ c d, v.toColumn? = some c ∧ w.toColumn? = some d ∧ ∀ r, c.render r = d.render r := by
  rcases same with rfl | ⟨e, spelled, spelled'⟩
  · cases v.toColumn? with
    | none => exact .inl ⟨rfl, rfl⟩
    | some c => exact .inr ⟨c, c, rfl, rfl, fun _ => rfl⟩
  · obtain ⟨c, understood, holds⟩ := spelled.toColumn?
    obtain ⟨d, understood', holds'⟩ := spelled'.toColumn?
    rw [understood, understood']
    by_cases empty : e.1 = ""
    · exact .inl ⟨if_pos empty, if_pos empty⟩
    · refine .inr ⟨c, d, if_neg empty, if_neg empty, fun r => ?_⟩
      rw [holds.render, holds'.render]

theorem mapM_toColumn?_same {vs ws : List Value} (same : List.Forall₂ Value.SameColumn vs ws) :
    (vs.mapM Value.toColumn? = none ∧ ws.mapM Value.toColumn? = none) ∨
      ∃ cs ds, vs.mapM Value.toColumn? = some cs ∧ ws.mapM Value.toColumn? = some ds ∧
        List.Forall₂ (fun c d : Column => ∀ r, c.render r = d.render r) cs ds := by
  induction same with
  | nil => exact .inr ⟨[], [], rfl, rfl, .nil⟩
  | cons first _ ih =>
    rw [List.mapM_cons, List.mapM_cons]
    rcases toColumn?_same first with ⟨none, none'⟩ | ⟨c, d, known, known', alike⟩
    · simp [none, none']
    · rcases ih with ⟨none, none'⟩ | ⟨cs, ds, made, made', each⟩
      · simp [known, known', none, none']
      · simp [known, known', made, made', alike, each]

/-- However the columns are written down, a selection is refused for the same cause or adds a clause
with the same text. -/
theorem planSelect_same {vs ws : List Value} (same : List.Forall₂ Value.SameColumn vs ws)
    (b : Builder) :
    (∃ e, b.planSelect vs = .error e ∧ b.planSelect ws = .error e) ∨
      ∃ cs ds, b.planSelect vs = .ok (.append (.select cs)) ∧
        b.planSelect ws = .ok (.append (.select ds)) ∧
        ∀ r, (Clause.select cs).render r = (Clause.select ds).render r := by
  have both : vs.isEmpty = ws.isEmpty := by cases same <;> rfl
  unfold planSelect
  rw [← both]
  split
  · exact .inl ⟨_, rfl, rfl⟩
  · split
    · exact .inl ⟨_, rfl, rfl⟩
    · rcases mapM_toColumn?_same same with ⟨none, none'⟩ | ⟨cs, ds, made, made', each⟩
      · rw [none, none']
        exact .inl ⟨_, rfl, rfl⟩
      · rw [made, made']
        refine .inr ⟨cs, ds, rfl, rfl, fun r => ?_⟩
        have texts : cs.mapM (Column.render r) = ds.mapM (Column.render r) :=
          Outcome.mapM_eq_of_forall₂ (each.imp fun c d alike => alike r)
        rw [Clause.render, Clause.render, texts]

theorem toSortItem?_same {v w : Value} (same : v.SameOrdering w) (r : Resolver) :
    v.toSortItem? r = w.toSortItem? r := by
  rcases same with rfl | ⟨e, spelled, spelled'⟩
  · rfl
  · rw [spelled.toSortItem? r, spelled'.toSortItem? r]

theorem planOrderBy_same {vs ws : List Value} (same : List.Forall₂ Value.SameOrdering vs ws)
    (r : Resolver) : planOrderBy r vs = planOrderBy r ws := by
  have items : sortItems r vs = sortItems r ws := by
    induction same with
    | nil => rfl
    | cons first _ ih => rw [sortItems, sortItems, toSortItem?_same first r, ih]
  have both : vs.isEmpty = ws.isEmpty := by cases same <;> rfl
  rw [planOrderBy, planOrderBy, both, items]

end Builder

end SelectBuilder
