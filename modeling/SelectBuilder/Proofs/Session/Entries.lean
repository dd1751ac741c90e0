import SelectBuilder.Proofs.Builder.Entries
import SelectBuilder.Proofs.Lists
import SelectBuilder.Proofs.Session.Run

/-!
# Lists of entries in a session

A call with a list of columns, of groupings or of orderings adds a clause with an entry for each
item. If no word of the entries has a comma or a space in it, the text of the clause tells what the
entries are.
-/
namespace SelectBuilder

/-- The entries that a clause keeps, each with what was given beside the column. -/
def Clause.listed : Clause → List (Value × Value)
  | select columns => columns.map fun c => (c.name, c.aliasName.orNull)
  | groupBy columns => columns.map fun v => (v, .null)
  | orderBy items => items.map fun i => (i.column, i.direction)
  | _ => []

/-- A kind of list: the call that takes it, the keyword of its clause, how an entry is written down
as an operand, what is kept of it, and the words that are shown of it. -/
structure ListKind (Entry : Type) where
  call : List Value → Call
  keyword : String
  Spells : Value → Entry → Prop
  parts : Entry → Value × Value
  words : Entry → List String

namespace ListKind

def columns : ListKind (String × Option String) where
  call := .select
  keyword := "SELECT"
  Spells := Value.SpellsColumn
  parts e := (.text e.1, e.2.elim .null .text)
  words := columnWords

def groupings : ListKind String where
  call := .groupBy
  keyword := "GROUP BY"
  Spells v n := v = .text n
  parts n := (.text n, .null)
  words n := [n]

def orderings : ListKind (String × Option SortDirection) where
  call := .orderBy
  keyword := "ORDER BY"
  Spells := Value.SpellsOrdering
  parts e := (.text e.1, e.2.elim .null .direction)
  words := orderingWords

/-- The text of a clause with a list. -/
def text {Entry : Type} (k : ListKind Entry) (es : List Entry) : String :=
  k.keyword ++ " " ++ Text.listing (es.map k.words)

end ListKind

namespace Session

variable {s : Session} {x : Step} {id : Nat} {b : Builder} {c : Call}

/-- A step succeeds and adds one clause to a builder, with a text that does not depend on what else
is in the store. -/
structure Appends (s : Session) (id : Nat) (x : Step) (clause : Clause) (text : String) : Prop where
  answered : (s.step x).2.outcome = .ok .done
  appended : ∃ b b', s.store.builders[id]? = some b ∧
    (s.step x).1.store = s.store.setBuilder id b' ∧ b'.clauses = b.clauses ++ [clause]
  written : ∀ r, clause.render r = .ok text

theorem Appends.of_plan {clause : Clause} {text : String}
    (found : s.store.builders[id]? = some b) (asked : s.request? x = some (id, c))
    (planned : b.plan (s.store.contextOf b) c = .ok (.append clause))
    (written : ∀ r, clause.render r = .ok text) : s.Appends id x clause text := by
  have called := Store.call_eq_ok.mpr ⟨b, _, found, planned, rfl, rfl⟩
  obtain ⟨store, -, answered⟩ := step_called asked called
  exact ⟨answered, ⟨b, _, found, store, rfl⟩, written⟩

theorem plan_of_accepted (h : s.accepted? x = some (id, c)) :
    s.request? x = some (id, c) ∧ ∃ b change, s.store.builders[id]? = some b ∧
      b.plan (s.store.contextOf b) c = .ok change := by
  obtain ⟨asked, t, report, called⟩ := accepted?_eq_some.mp h
  obtain ⟨b, change, found, planned, -⟩ := Store.call_eq_ok.mp called
  exact ⟨asked, b, change, found, planned⟩

/-- Whenever a list is taken, a clause is added that keeps its entries, and at least one. -/
def Takes {Entry : Type} (k : ListKind Entry) : Prop :=
  ∀ (s : Session) (x : Step) (id : Nat) (vs : List Value) (es : List Entry),
    s.accepted? x = some (id, k.call vs) → List.Forall₂ k.Spells vs es →
      es ≠ [] ∧ ∃ clause, s.Appends id x clause (k.text es) ∧ clause.listed = es.map k.parts

theorem takes_columns : Takes .columns := by
  intro s x id vs es accepted spelled
  obtain ⟨asked, b, change, found, planned⟩ := plan_of_accepted accepted
  obtain ⟨-, some, cs, made, rfl⟩ := Builder.planSelect_eq_ok.mp planned
  have held := Builder.holds_of_mapM spelled made
  refine ⟨?_, _, .of_plan found asked planned (Builder.render_select held), ?_⟩
  · rintro rfl
    cases spelled
    exact some rfl
  · exact map_eq_map_of_forall₂ (held.imp fun c e h => Prod.ext h.name h.aliasName)

theorem takes_groupings : Takes .groupings := by
  intro s x id vs es accepted spelled
  obtain ⟨asked, b, change, found, planned⟩ := plan_of_accepted accepted
  obtain ⟨some, -, rfl⟩ := Builder.planGroupBy_eq_ok.mp planned
  obtain rfl : vs = es.map .text := by
    simpa using map_eq_map_of_forall₂ (f := fun v => v) spelled
  refine ⟨?_, _, .of_plan found asked planned (Builder.render_groupBy es), ?_⟩
  · rintro rfl
    exact some rfl
  · exact List.map_map

theorem takes_orderings : Takes .orderings := by
  intro s x id vs es accepted spelled
  obtain ⟨asked, b, change, found, planned⟩ := plan_of_accepted accepted
  obtain ⟨some, items, sorted, rfl⟩ := Builder.planOrderBy_eq_ok.mp planned
  obtain rfl := Builder.sortItems_entries spelled sorted
  refine ⟨?_, _, .of_plan found asked planned (Builder.render_orderBy es), ?_⟩
  · rintro rfl
    cases spelled
    exact some rfl
  · exact List.map_map

/-- Two calls with lists of a kind, made in any sessions and accepted, add clauses that keep the
entries and show their words in the same order. If all words are plain, the clauses have the same
text only if the entries are the same. -/
def Unambiguous {Entry : Type} (k : ListKind Entry) : Prop :=
  ∀ (s s' : Session) (x x' : Step) (id id' : Nat) (vs vs' : List Value) (es es' : List Entry),
    s.accepted? x = some (id, k.call vs) → s'.accepted? x' = some (id', k.call vs') →
    List.Forall₂ k.Spells vs es → List.Forall₂ k.Spells vs' es' →
    (∀ e ∈ es, ∀ w ∈ k.words e, Text.IsPlain w) → (∀ e ∈ es', ∀ w ∈ k.words e, Text.IsPlain w) →
    ∃ clause clause', s.Appends id x clause (k.text es) ∧ s'.Appends id' x' clause' (k.text es') ∧
      clause.listed = es.map k.parts ∧ clause'.listed = es'.map k.parts ∧
      ((∃ r r', clause.render r = clause'.render r') → es = es')

theorem Takes.unambiguous {Entry : Type} {k : ListKind Entry} (takes : Takes k)
    (injective : Function.Injective k.words) (worded : ∀ e, k.words e ≠ []) : Unambiguous k := by
  intro s s' x x' id id' vs vs' es es' accepted accepted' spelled spelled' plain plain'
  obtain ⟨some, clause, appends, listed⟩ := takes s x id vs es accepted spelled
  obtain ⟨some', clause', appends', listed'⟩ := takes s' x' id' vs' es' accepted' spelled'
  refine ⟨clause, clause', appends, appends', listed, listed', ?_⟩
  rintro ⟨r, r', same⟩
  rw [appends.written, appends'.written] at same
  have listings : Text.listing (es.map k.words) = Text.listing (es'.map k.words) := by
    have texts := congrArg String.toList (Except.ok.inj same)
    exact String.toList_inj.mp (by simpa [ListKind.text] using texts)
  have entries : ∀ fs : List Entry, (∀ e ∈ fs, ∀ w ∈ k.words e, Text.IsPlain w) →
      ∀ ws ∈ fs.map k.words, Text.IsEntry ws := by
    intro fs plain ws hws
    obtain ⟨e, he, rfl⟩ := List.mem_map.mp hws
    exact ⟨worded e, plain e he⟩
  exact injective.list_map (Text.listing_injective (entries es plain) (entries es' plain')
    (by simpa using some) (by simpa using some') listings)

/-- The lists of columns, of groupings and of orderings are written without ambiguity. However the
entries of two accepted lists are written down, the clauses keep them in their order, and they have
the same text only for the same entries, which may well have keywords as their names. -/
theorem entries_step :
    Unambiguous .columns ∧ Unambiguous .groupings ∧ Unambiguous .orderings := by
  refine ⟨takes_columns.unambiguous columnWords_injective ?_,
    takes_groupings.unambiguous (fun _ _ same => (List.cons.inj same).1) fun _ => nofun,
    takes_orderings.unambiguous orderingWords_injective ?_⟩
  · rintro ⟨n, _ | a⟩ <;> exact nofun
  · rintro ⟨c, _ | d⟩ <;> exact nofun

/-- A session with an empty statement. -/
def unfilled : Session := initial.run [.new "b" (.fields [])]

/-- An alias is told from a further column even if all of them are the keyword for aliases. -/
theorem entries_step_keywords :
    ∃ clause clause',
      unfilled.Appends 0
        (.call "b" "select" [.tuple [.text "AS", .text "AS"], .list [.text "AS"]] []) clause
        (ListKind.columns.text [("AS", some "AS"), ("AS", none)]) ∧
      unfilled.Appends 0
        (.call "b" "select" [.text "AS", .column (.text "AS") (.text "AS")] []) clause'
        (ListKind.columns.text [("AS", none), ("AS", some "AS")]) ∧
      ∀ r r', clause.render r ≠ clause'.render r' := by
  have as : Text.IsPlain "AS" := by decide
  obtain ⟨clause, clause', appends, appends', -, -, same⟩ := entries_step.1 unfilled unfilled
    (.call "b" "select" [.tuple [.text "AS", .text "AS"], .list [.text "AS"]] [])
    (.call "b" "select" [.text "AS", .column (.text "AS") (.text "AS")] []) 0 0 _ _
    [("AS", some "AS"), ("AS", none)] [("AS", none), ("AS", some "AS")] rfl rfl
    (.cons (.aliased (.inr rfl) "AS" (by decide)) (.cons (.alone (.inl rfl) "AS") .nil))
    (.cons (.name "AS") (.cons (.descriptor "AS" (by decide)) .nil))
    (by simpa [ListKind.columns, columnWords] using as)
    (by simpa [ListKind.columns, columnWords] using as)
  refine ⟨clause, clause', appends, appends', fun r r' equal => ?_⟩
  exact absurd (same ⟨r, r', equal⟩) (by decide)

end Session

end SelectBuilder
