import SelectBuilder.Proofs.Builder.Lasting
import SelectBuilder.Proofs.Value.Balance
import SelectBuilder.Proofs.Value.Mapping

/-!
# Balanced statements

A statement has balanced parentheses if it is made of balanced values, whatever clauses and
operators it has. Statements are taken as their texts, so that they can be part of one another.
-/
namespace SelectBuilder

open Outcome

/-! ## Settled values -/

/-- A value of a clause whose text is there once and for all, and balanced. -/
structure Value.Settled (v : Value) : Prop where
  text : ∀ r, BalancedText (v.toText r)
  content : ∀ s, v.content? = some s → Text.Balanced s
  inner : ∀ w, v.inner? = some w → ∀ r, BalancedText (w.toText r)
  fixed : ∀ F, v.relocate F = v
  apart : v.references = []

namespace Value

variable {v w : Value} {r : Resolver}

theorem settled_text {s : String} (h : Text.Balanced s) : (text s).Settled where
  text _ := ⟨s, rfl, h⟩
  content _ same := Option.some.inj same ▸ h
  inner _ none := nomatch none
  fixed _ := rfl
  apart := rfl

theorem Balanced.settled (h : v.Balanced) : v.Settled where
  text := h.toText
  content s same := by
    cases v with
    | text t =>
      cases same
      exact h.1
    | joinType t =>
      cases same
      exact t.word_balanced
    | direction d =>
      cases same
      exact d.word_balanced
    | _ => cases same
  inner w same r := by
    cases v with
    | joinType t =>
      cases same
      exact ⟨_, rfl, t.word_balanced⟩
    | direction d =>
      cases same
      exact ⟨_, rfl, d.word_balanced⟩
    | code c =>
      cases same
      exact ⟨_, rfl, Number.intText_balanced _⟩
    | number v | quoted v =>
      cases same
      exact Balanced.toText (v := w) h r
    | fault name args => exact h.elim
    | _ => cases same
  fixed F := h.relocate F
  apart := h.references

theorem Settled.gives (h : v.Settled) (r : Resolver) : Gives Text.Balanced (v.toText r) := by
  obtain ⟨t, text, balanced⟩ := h.text r
  rw [text]
  exact gives_ok balanced

theorem Settled.orNull (h : v.Settled) : v.orNull.Settled := by
  unfold Value.orNull
  split
  · exact h
  · exact (show null.Balanced from trivial).settled

end Value

/-! ## Settled clauses -/

section

variable {r : Resolver} {vs : List Value} {base aliasName : Value}

theorem joinContents_balanced {separator : String} (between : Text.Balanced separator)
    (h : ∀ v ∈ vs, ∀ s, v.content? = some s → Text.Balanced s) :
    Gives Text.Balanced (joinContents separator vs) := by
  unfold joinContents
  split
  · next texts contents =>
    refine gives_ok (.intercalate between fun t ht => ?_)
    obtain ⟨v, hv, content⟩ := exists_of_mem_mapM contents ht
    exact h v hv t content
  · exact gives_error _

theorem aliased_settled (hb : base.Settled) (ha : aliasName.Settled) :
    Gives Value.Settled (aliased r base aliasName) := by
  unfold aliased
  split
  · refine .bind fun b text => .bind fun a text' => gives_ok (Value.settled_text ?_)
    exact ((hb.gives r b text).append (by decide)).append (ha.gives r a text')
  · exact gives_ok hb

theorem Table.render_settled {t : Table} (source : t.source.Settled)
    (aliasName : t.aliasName.Settled) : Gives Value.Settled (t.render r) := by
  unfold Table.render
  dsimp only
  split
  · refine .bind fun target made => aliased_settled ?_ aliasName
    obtain ⟨s, text, rfl⟩ := map_eq_ok.mp made
    exact Value.settled_text (.insert (by decide : Text.Balanced ("( " ++ " )"))
      (source.gives r s text))
  · exact aliased_settled source aliasName

theorem SortItem.render_settled {i : SortItem} (column : i.column.Settled)
    (direction : i.direction.Settled) : Gives Value.Settled (i.render r) := by
  unfold SortItem.render
  split
  · exact gives_ok column
  · refine .bind fun c text => .bind fun w inner => .bind fun d text' => gives_ok ?_
    obtain ⟨u, written, balanced⟩ := direction.inner w (Value.inner_eq_ok.mp inner) r
    rw [written] at text'
    cases text'
    exact Value.settled_text (((column.gives r c text).append (by decide)).append balanced)

theorem Outcome.Gives.mapM {α β : Type} {P : β → Prop} {f : α → Outcome β} {items : List α}
    (h : ∀ a ∈ items, Gives P (f a)) : Gives (fun bs => ∀ b ∈ bs, P b) (items.mapM f) := by
  induction items with
  | nil => exact gives_ok nofun
  | cons a rest ih =>
    rw [List.mapM_cons]
    obtain ⟨first, later⟩ := List.forall_mem_cons.mp h
    refine .bind fun b made => .bind fun bs others => gives_ok ?_
    exact List.forall_mem_cons.mpr ⟨first b made, ih later bs others⟩

end

namespace Clause

/-- A clause of settled values and balanced parts. -/
structure Settled (c : Clause) : Prop where
  values : ∀ v ∈ c.values, v.Settled
  parts : ∀ p ∈ c.parts, Text.Balanced p

variable {c : Clause} {r : Resolver}

theorem listText_balanced {keyword : String} (h : Text.Balanced keyword) {vs : List Value}
    (each : ∀ v ∈ vs, v.Settled) : Gives Text.Balanced (listText keyword vs) :=
  .bind fun t joined => gives_ok ((h.append (by decide)).append
    (joinContents_balanced (by decide) (fun v hv => (each v hv).content) t joined))

theorem Settled.render (h : c.Settled) (r : Resolver) : Gives Text.Balanced (c.render r) := by
  obtain ⟨values, parts⟩ := h
  cases c with
  | select columns =>
    refine .bind fun vs made => listText_balanced (by decide) ?_
    refine Gives.mapM (fun c hc => ?_) vs made
    exact aliased_settled (values _ (List.mem_flatMap.mpr ⟨c, hc, by simp⟩))
      (values _ (List.mem_flatMap.mpr ⟨c, hc, by simp⟩))
  | source t =>
    simp only [Clause.values, List.forall_mem_cons] at values
    obtain ⟨source, aliasName, -⟩ := values
    refine .bind fun v made => .bind fun s text => gives_ok ?_
    have written := (Table.render_settled source aliasName v made).gives r s text
    exact (by decide : Text.Balanced "FROM ").append written
  | condition kind head others =>
    refine joinContents_balanced (by decide) ?_
    refine List.forall_mem_cons.mpr ⟨fun s same => ?_, List.forall_mem_cons.mpr ⟨?_, ?_⟩⟩
    · cases same
      cases kind <;> decide
    · exact (values head (List.mem_singleton.mpr rfl)).content
    · intro v hv s same
      obtain ⟨p, hp, rfl⟩ := List.mem_map.mp hv
      cases same
      exact parts s hp
  | join j t left right =>
    simp only [Clause.values, List.forall_mem_cons] at values
    obtain ⟨source, aliasName, -, hl, hr, -⟩ := values
    refine .bind fun v made => .bind fun w word => .bind fun s text => ?_
    refine .bind fun b second => .bind fun a first => gives_ok ?_
    cases word
    have target := (Table.render_settled source aliasName v made).gives r s text
    have joined : Text.Balanced (j.word ++ " JOIN ") := j.word_balanced.append (by decide)
    exact ((((joined.append target).append (by decide)).append (hr.gives r b second)).append
      (by decide)).append (hl.gives r a first)
  | groupBy columns => exact listText_balanced (by decide) values
  | orderBy items =>
    refine .bind fun vs made => listText_balanced (by decide) ?_
    refine Gives.mapM (fun i hi => ?_) vs made
    exact SortItem.render_settled (values _ (List.mem_flatMap.mpr ⟨i, hi, by simp⟩))
      (values _ (List.mem_flatMap.mpr ⟨i, hi, by simp⟩))
  | limit count offset =>
    simp only [Clause.values, List.forall_mem_cons] at values
    obtain ⟨hc, ho, -⟩ := values
    show Gives Text.Balanced (limitText r count offset)
    unfold limitText
    split
    · exact .bind fun t text => gives_ok
        ((by decide : Text.Balanced "LIMIT ").append (hc.gives r t text))
    · refine .bind fun t text => .bind fun u text' => gives_ok ?_
      exact (((by decide : Text.Balanced "LIMIT ").append (hc.gives r t text)).append
        (by decide)).append (ho.gives r u text')
  | union all query =>
    have hq := values query (List.mem_singleton.mpr rfl)
    have word : Text.Balanced (if all then "UNION ALL " else "UNION ") := by
      cases all <;> decide
    exact .bind fun t text => gives_ok (word.append (hq.gives r t text))

/-- Nothing in it can be moved. -/
theorem Settled.relocate (h : c.Settled) (F : Reference → Reference) : c.relocate F = c := by
  rw [relocate_eq_map, map_congr (ψ := id) fun v hv => (h.values v hv).fixed F, map_id]

theorem Settled.references (h : c.Settled) : c.references = [] := by
  rw [references_eq]
  exact List.flatMap_eq_nil_iff.mpr fun v hv => (h.values v hv).apart

/-- A clause that has no parts is settled if its values are. -/
theorem Settled.of_values (none : c.parts = []) (values : ∀ v ∈ c.values, v.Settled) : c.Settled :=
  ⟨values, by simp [none]⟩

theorem Settled.extend (h : c.Settled) {part : String} (balanced : Text.Balanced part) :
    (c.extend part).Settled := by
  obtain ⟨values, parts⟩ := h
  cases c with
  | condition kind head others =>
    refine ⟨values, fun p hp => ?_⟩
    rcases List.mem_append.mp hp with old | new
    · exact parts p old
    · exact List.mem_singleton.mp new ▸ balanced
  | _ => exact ⟨values, parts⟩

end Clause

/-- What a change adds to a builder is settled. -/
def Change.Settled : Change → Prop
  | .append c => c.Settled
  | .extend _ part _ => Text.Balanced part

namespace Builder

def Settled (b : Builder) : Prop := ∀ c ∈ b.clauses, c.Settled

variable {b : Builder}

theorem fresh_settled (config : Nat) : ({ config := config } : Builder).Settled := nofun

theorem Settled.relocate (h : b.Settled) (F : Reference → Reference) :
    (Store.relocateBuilder F b).Settled := by
  intro c hc
  obtain ⟨d, hd, rfl⟩ := List.mem_map.mp hc
  exact ((h d hd).relocate F).symm ▸ h d hd

theorem Settled.apply (h : b.Settled) {change : Change} (new : change.Settled) (strict : Bool) :
    (b.apply strict change).Settled := by
  cases change with
  | append c => exact List.forall_mem_append.mpr ⟨h, List.forall_mem_singleton.mpr new⟩
  | extend op part stage =>
    intro d hd
    simp only [Builder.apply, enter, settle, Builder.extend] at hd
    split at hd
    · obtain ⟨i, found⟩ := List.mem_iff_getElem?.mp hd
      rw [List.getElem?_modify] at found
      obtain ⟨c, old, rfl⟩ := Option.map_eq_some_iff.mp found
      split
      · exact (h c (List.mem_of_getElem? old)).extend new
      · exact h c (List.mem_of_getElem? old)
    · exact h d hd

theorem Settled.render (h : b.Settled) (r : Resolver) : Gives Text.Balanced (b.render r) :=
  .bind fun ts made => gives_ok
    (.intercalate (by decide) (Gives.mapM (fun c hc => (h c hc).render r) ts made))

end Builder

/-! ## Calls -/

namespace Value

/-- A balanced value, or a statement that is taken as its text. -/
def Embeddable (v : Value) : Prop := v.Balanced ∨ ∃ id, v = reference (.builder id)

variable {v w : Value} {r : Resolver}

theorem Embeddable.toText (h : v.Embeddable) (texts : ∀ id, Gives Text.Balanced (r.statement id)) :
    Gives Text.Balanced (v.toText r) := by
  rcases h with h | ⟨id, rfl⟩
  · exact h.settled.gives r
  · exact texts id

theorem Embeddable.embedded (h : v.Embeddable)
    (texts : ∀ id, Gives Text.Balanced (r.statement id)) : Gives Settled (v.embedded r) := by
  rcases h with h | ⟨id, rfl⟩
  · unfold Value.embedded
    split
    · exact h.elim
    · exact gives_ok h.settled
  · exact .bind fun t text => gives_ok (settled_text (texts id t text))

theorem quoted_settled (h : v.Embeddable) (texts : ∀ id, Gives Text.Balanced (r.statement id)) :
    Gives Settled ((quoted v).render r) :=
  .bind fun t text => gives_ok (settled_text
    (((by decide : Text.Balanced "'").append (h.toText texts t text)).append (by decide)))

theorem number_settled (h : v.Embeddable) (texts : ∀ id, Gives Text.Balanced (r.statement id)) :
    Gives Settled ((number v).render r) :=
  .bind fun t text => gives_ok (settled_text (h.toText texts t text))

theorem Embeddable.toRaw (h : v.Embeddable) (texts : ∀ id, Gives Text.Balanced (r.statement id)) :
    Gives Settled (v.toRaw r) := by
  have plain : Gives Settled (do return text (← v.toText r)) :=
    .bind fun t text => gives_ok (settled_text (h.toText texts t text))
  rcases h with h | ⟨id, rfl⟩
  · cases v with
    | number v => exact number_settled (.inl h) texts
    | quoted v => exact quoted_settled (.inl h) texts
    | raw v => exact gives_ok (Balanced.settled (v := v) h)
    | _ => exact plain
  · exact plain

/-- What a literal is written as. -/
theorem Embeddable.literal (h : v.Embeddable)
    (texts : ∀ id, Gives Text.Balanced (r.statement id)) (literal : v.toLiteral r = .ok w) :
    Gives Settled (w.render r) := by
  have plain (made : (do return raw (text (← v.toText r))) = Except.ok w) :
      Gives Settled (w.render r) := by
    obtain ⟨t, text, made⟩ := bind_eq_ok.mp made
    cases made
    exact gives_ok (settled_text (h.toText texts t text))
  rcases h with h | ⟨id, rfl⟩
  · cases v with
    | number v | int i | double x | decimal d | code c =>
      cases literal
      exact number_settled (.inl h) texts
    | quoted v | text s | joinType t | direction d =>
      cases literal
      exact quoted_settled (.inl h) texts
    | raw v =>
      cases literal
      exact gives_ok (Balanced.settled (v := v) h)
    | bool b =>
      cases literal
      exact gives_ok (settled_text (by cases b <;> decide))
    | null =>
      cases literal
      exact gives_ok (settled_text (by decide))
    | _ => exact plain literal
  · exact plain literal

/-- The values of a list: a balanced text, a statement, or balanced items and statements. -/
def BalancedListing (v : Value) : Prop :=
  v.Embeddable ∨ v.isText = false ∧ ∃ items, v.items? = some items ∧ ∀ i ∈ items, i.Embeddable

/-- The target of a join: a table or a pair whose source may be a statement. -/
def BalancedTarget : Value → Prop
  | table s a q => s.Embeddable ∧ a.Balanced ∧ q.Balanced
  | v => ∀ parts, v.sequence? = some parts → ∀ p ∈ parts, p.Embeddable

theorem Balanced.sequence? {items : List Value} (h : v.Balanced)
    (sequence : v.sequence? = some items) : ∀ i ∈ items, i.Balanced := by
  cases v <;> cases sequence <;> exact allBalanced_iff.mp h

theorem Balanced.items? {items : List Value} (h : v.Balanced) (other : v.isText = false)
    (known : v.items? = some items) : ∀ i ∈ items, i.Balanced := by
  cases v with
  | list vs | tuple vs | set vs | iterator vs =>
    cases known
    exact allBalanced_iff.mp h
  | dict entries =>
    cases known
    intro i hi
    obtain ⟨e, he, rfl⟩ := List.mem_map.mp hi
    exact EntriesBalanced.keys h e he
  | text s | joinType t | direction d => cases other
  | bytes content => exact h.elim
  | _ => cases known

theorem Balanced.toColumn? {c : Column} (h : v.Balanced) (made : v.toColumn? = some c) :
    c.name.Settled ∧ c.aliasName.Settled := by
  have noAlias : null.Settled := (show null.Balanced from trivial).settled
  unfold Value.toColumn? at made
  split at made
  · split at made <;> cases made
    exact ⟨Balanced.settled h.1, Balanced.settled h.2⟩
  · split at made
    · split at made <;> cases made
      exact ⟨h.settled, noAlias⟩
    · split at made
      · next n sequence =>
        split at made <;> cases made
        exact ⟨(h.sequence? sequence n (by simp)).settled, noAlias⟩
      · next n a sequence =>
        split at made <;> cases made
        exact ⟨(h.sequence? sequence n (by simp)).settled,
          (h.sequence? sequence a (by simp)).settled.orNull⟩
      · cases made

theorem settled_direction {d : Value} (made : v.toDirection? r = .ok (some d)) : d.Settled := by
  have noDirection : null.Settled := (show null.Balanced from trivial).settled
  rcases toDirection?_cases made with rfl | ⟨word, rfl⟩
  · exact noDirection
  · exact (show (direction word).Balanced from trivial).settled

theorem Balanced.toSortItem? {i : SortItem} (h : v.Balanced)
    (made : v.toSortItem? r = .ok (some i)) : i.column.Settled ∧ i.direction.Settled := by
  have noDirection : null.Settled := (show null.Balanced from trivial).settled
  unfold Value.toSortItem? at made
  split at made
  · split at made <;> cases made
    exact ⟨Balanced.settled h.1, Balanced.settled h.2⟩
  · split at made
    · split at made <;> cases made
      exact ⟨h.settled, noDirection⟩
    · split at made
      · next c sequence =>
        split at made <;> cases made
        exact ⟨(h.sequence? sequence c (by simp)).settled, noDirection⟩
      · next c d sequence =>
        split at made
        · obtain ⟨d', directed, made⟩ := bind_eq_ok.mp made
          obtain ⟨d'', rfl, rfl⟩ := Option.map_eq_some_iff.mp (Except.ok.inj made)
          exact ⟨(h.sequence? sequence c (by simp)).settled, settled_direction directed⟩
        · cases made
      · cases made

end Value

namespace Builder

variable {r : Resolver}

theorem listInside_settled {values : Value} (h : values.BalancedListing)
    (texts : ∀ id, Gives Text.Balanced (r.statement id)) :
    Gives Value.Settled (listInside r values) := by
  unfold listInside
  split
  · next id => exact .bind fun t text => gives_ok (Value.settled_text (texts id t text))
  · next v other =>
    split
    · next isText =>
      rcases h with (h | ⟨id, rfl⟩) | ⟨noText, -⟩
      · exact gives_ok h.settled
      · cases isText
      · rw [noText] at isText
        cases isText
    · next noText =>
      split
      · next items known =>
        have each : ∀ i ∈ items, i.Embeddable := by
          rcases h with (h | ⟨id, rfl⟩) | ⟨-, items', same, each⟩
          · exact fun i hi => .inl (h.items? (by simpa using noText) known i hi)
          · cases known
          · cases known.symm.trans same
            exact each
        refine .bind fun vs raw => .bind fun t joined => gives_ok (Value.settled_text ?_)
        have settled := Gives.mapM (fun i hi => (each i hi).toRaw texts) vs raw
        exact joinContents_balanced (by decide) (fun v hv => (settled v hv).content) t joined
      · exact gives_error _

theorem joinTarget?_settled {target subquery : Value} {t : Table} (h : target.BalancedTarget)
    (flag : subquery.Balanced) (texts : ∀ id, Gives Text.Balanced (r.statement id))
    (made : joinTarget? r target subquery = .ok (some t)) :
    t.source.Settled ∧ t.aliasName.Settled ∧ t.isSubquery.Settled := by
  unfold joinTarget? at made
  dsimp only at made
  split at made
  · next source aliasName wrapped parts =>
    have balanced : source.Embeddable ∧ aliasName.Embeddable ∧ wrapped.Balanced := by
      split at parts
      · next s a q =>
        cases parts
        refine ⟨h.1, .inl h.2.1, ?_⟩
        split
        · exact flag
        · exact h.2.2
      · next other =>
        split at parts
        · next s a sequence =>
          cases parts
          have each : ∀ p ∈ [source, aliasName], p.Embeddable := by
            cases target <;> first | exact h _ sequence | cases sequence
          exact ⟨each source (by simp), each aliasName (by simp), flag⟩
        · cases parts
    obtain ⟨hs, ha, hq⟩ := balanced
    obtain ⟨sql, embedded, made⟩ := bind_eq_ok.mp made
    split at made <;> cases made
    next named =>
    have name := (Bool.and_eq_true_iff.mp (Bool.and_eq_true_iff.mp named).2).1
    refine ⟨hs.embedded texts sql embedded, ?_, hq.settled⟩
    rcases ha with ha | ⟨id, rfl⟩
    · exact ha.settled
    · cases name
  · cases made

end Builder

namespace Call

/-- The operands of a call are balanced; statements stand only where they are taken as their
texts. -/
def Balanced : Call → Prop
  | select columns => ∀ v ∈ columns, v.Balanced
  | source table aliasName => table.Balanced ∧ aliasName.Balanced
  | sourceQuery query aliasName => query.Embeddable ∧ aliasName.Balanced
  | rows column => column.Balanced
  | compare operator value => operator.Balanced ∧ value.Embeddable
  | differ value operator => operator.Balanced ∧ value.Embeddable
  | connect _ column => column.Embeddable
  | like _ pattern => pattern.Embeddable
  | between _ low high => low.Embeddable ∧ high.Embeddable
  | within _ values => values.BalancedListing
  | isNull _ => True
  | join _ target on subquery => target.BalancedTarget ∧ on.Balanced ∧ subquery.Balanced
  | groupBy columns => ∀ v ∈ columns, v.Balanced
  | groups expression => expression.Balanced
  | orderBy items => ∀ v ∈ items, v.Balanced
  | paginate count offset => count.Balanced ∧ offset.Balanced
  | union _ query => query.Embeddable

end Call

namespace Builder

theorem planCompare_settled {r : Resolver} {b : Builder} {operator value : Value} {change : Change}
    (h : operator.Balanced) (h' : value.Embeddable)
    (texts : ∀ id, Gives Text.Balanced (r.statement id))
    (planned : b.planCompare r operator value = .ok change) : change.Settled := by
  obtain ⟨-, -, op, word, v, literal, w, rendered, t, text, rfl⟩ := planCompare_eq_ok.mp planned
  have named := h.settled.gives r op word
  exact (named.append (by decide)).append ((h'.literal texts literal w rendered).gives r t text)

theorem forall_mem_pairs {α : Type} {f g : α → Value} {items : List α}
    (h : ∀ a ∈ items, (f a).Settled ∧ (g a).Settled) :
    ∀ v ∈ items.flatMap fun a => [f a, g a], v.Settled := by
  intro v hv
  obtain ⟨a, ha, hv⟩ := List.mem_flatMap.mp hv
  simp only [List.mem_cons, List.not_mem_nil, or_false] at hv
  rcases hv with rfl | rfl
  · exact (h a ha).1
  · exact (h a ha).2

/-- Whatever a call with balanced operands adds to a builder is settled, if statements have balanced
texts. -/
theorem plan_settled {ctx : Context} {b : Builder} {c : Call} {change : Change} (h : c.Balanced)
    (texts : ∀ id, Gives Text.Balanced (ctx.resolver.statement id))
    (planned : b.plan ctx c = .ok change) : change.Settled := by
  cases c with
  | select columns =>
    obtain ⟨-, -, cs, made, rfl⟩ := planSelect_eq_ok.mp planned
    have settled := (forall_mem_mapM made fun c => c.name.Settled ∧ c.aliasName.Settled).mpr
      fun v hv c => (h v hv).toColumn?
    exact Clause.Settled.of_values rfl (forall_mem_pairs settled)
  | source table aliasName =>
    obtain ⟨-, -, -, rfl⟩ := planSource_eq_ok.mp planned
    refine Clause.Settled.of_values rfl ?_
    have flag : (Value.bool false).Balanced := trivial
    simpa [Clause.values] using ⟨h.1.settled, h.2.settled.orNull, flag.settled⟩
  | sourceQuery query aliasName =>
    obtain ⟨-, sql, embedded, -, -, -, rfl⟩ := planSourceQuery_eq_ok.mp planned
    refine Clause.Settled.of_values rfl ?_
    have flag : (Value.bool true).Balanced := trivial
    simpa [Clause.values] using ⟨h.1.embedded texts sql embedded, h.2.settled, flag.settled⟩
  | rows column =>
    obtain ⟨-, -, -, rfl⟩ := planRows_eq_ok.mp planned
    refine Clause.Settled.of_values rfl ?_
    simpa [Clause.values] using Value.Balanced.settled h
  | groups expression =>
    obtain ⟨-, -, rfl⟩ := planGroups_eq_ok.mp planned
    refine Clause.Settled.of_values rfl ?_
    simpa [Clause.values] using Value.Balanced.settled h
  | compare operator value => exact planCompare_settled h.1 h.2 texts planned
  | differ value operator =>
    exact planCompare_settled h.1 h.2 texts (planDiffer_eq_ok.mp planned).2.2
  | connect word column =>
    obtain ⟨-, -, -, t, text, rfl⟩ := planConnect_eq_ok.mp planned
    have named : Text.Balanced (word.word ++ " ") := by cases word <;> decide
    exact named.append (h.toText texts t text)
  | like negated pattern =>
    obtain ⟨-, -, v, made, t, text, rfl⟩ := planLike_eq_ok.mp planned
    have named : Text.Balanced (negatable negated "LIKE" ++ " ") := by cases negated <;> decide
    exact named.append ((Value.quoted_settled h texts v made).gives _ t text)
  | between negated low high =>
    obtain ⟨-, v, low, l, text, w, high, u, text', rfl⟩ := planBetween_eq_ok.mp planned
    have named : Text.Balanced (negatable negated "BETWEEN" ++ " ") := by cases negated <;> decide
    have first := (h.1.toRaw texts v low).gives _ l text
    have second := (h.2.toRaw texts w high).gives _ u text'
    exact ((named.append first).append (by decide)).append second
  | within negated values =>
    obtain ⟨-, inside, made, -, t, text, rfl⟩ := planWithin_eq_ok.mp planned
    have around : Text.Balanced (negatable negated "IN" ++ " (" ++ ")") := by
      cases negated <;> decide
    exact around.insert ((listInside_settled h texts inside made).gives _ t text)
  | isNull negated =>
    obtain ⟨-, rfl⟩ := planIsNull_eq_ok.mp planned
    show Text.Balanced _
    cases negated <;> decide
  | join joinType target on subquery =>
    obtain ⟨j, -, t, targeted, left, right, sequence, -, -, rfl⟩ := planJoin_eq_ok.mp planned
    obtain ⟨source, aliasName, flag⟩ := joinTarget?_settled h.1 h.2.2 texts targeted
    have sides := h.2.1.sequence? sequence
    refine Clause.Settled.of_values rfl ?_
    simpa [Clause.values] using
      ⟨source, aliasName, flag, (sides left (by simp)).settled, (sides right (by simp)).settled⟩
  | groupBy columns =>
    obtain ⟨-, -, rfl⟩ := planGroupBy_eq_ok.mp planned
    exact Clause.Settled.of_values rfl fun v hv => (h v hv).settled
  | orderBy items =>
    obtain ⟨-, sorted, made, rfl⟩ := planOrderBy_eq_ok.mp planned
    have settled := (forall_mem_sortItems made fun i => i.column.Settled ∧ i.direction.Settled).mpr
      fun v hv i => (h v hv).toSortItem?
    exact Clause.Settled.of_values rfl (forall_mem_pairs settled)
  | paginate count offset =>
    obtain ⟨-, rfl⟩ := planPaginate_eq_ok.mp planned
    refine Clause.Settled.of_values rfl ?_
    simpa [Clause.values] using ⟨h.1.settled, h.2.settled⟩
  | union all query =>
    obtain ⟨q, embedded, -, rfl⟩ := planUnion_eq_ok.mp planned
    refine Clause.Settled.of_values rfl ?_
    simpa [Clause.values] using Value.Embeddable.embedded h texts q embedded

end Builder

end SelectBuilder
