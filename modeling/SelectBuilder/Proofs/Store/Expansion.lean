import SelectBuilder.Proofs.Builder.Legibility
import SelectBuilder.Proofs.Store.Scope

/-!
# Expansion of statements

The text of a statement has the texts of the statements that it keeps in it, and so on. If the
clauses are legible, there is such a text if and only if no statement that is come to in this way
keeps itself; nothing else goes wrong.
-/
namespace SelectBuilder

open Relation Outcome

namespace Store

variable {s : Store} {id j : Nat} {sql : String}

/-- The text that a statement has once every statement that it keeps is replaced by such a text. -/
inductive Expands (s : Store) : Nat → String → Prop where
  | intro {id : Nat} {b : Builder} {sql : String} (texts : Nat → String)
      (found : s.builders[id]? = some b)
      (kept : ∀ j, .builder j ∈ b.references → Expands s j (texts j))
      (written : b.render ⟨fun j => .ok (texts j), s.quoted⟩ = .ok sql) : Expands s id sql

/-- A statement leads to one that keeps itself, at once or through others. -/
def Circular (s : Store) (id : Nat) : Prop := ∃ j, s.Reaches id j ∧ TransGen s.Refers j j

def Legible (s : Store) : Prop := ∀ b ∈ s.builders, b.Legible

theorem mem_statements {refs : List Reference} : j ∈ statements refs ↔ .builder j ∈ refs := by
  unfold statements
  rw [List.mem_filterMap]
  constructor
  · rintro ⟨x, hx, same⟩
    cases x <;> cases same
    exact hx
  · exact fun hj => ⟨_, hj, rfl⟩

/-! ## Expansions are unique and end -/

theorem Expands.unique {sql' : String} (h : s.Expands id sql) (h' : s.Expands id sql') :
    sql = sql' := by
  induction h generalizing sql' with
  | intro texts found kept written ih =>
    obtain ⟨texts', found', kept', written'⟩ := h'
    obtain rfl := Option.some.inj (found.symm.trans found')
    refine Except.ok.inj (written.symm.trans (Eq.trans ?_ written'))
    refine Builder.render_congr fun c hc => ⟨fun j hj => ?_, fun _ _ => rfl⟩
    have inside := List.mem_flatMap.mpr ⟨c, hc, hj⟩
    exact congrArg _ (ih j inside (kept' j inside))

/-- Whatever a statement with an expansion leads to has one. -/
theorem Expands.reaches (h : s.Expands id sql) (leads : s.Reaches id j) :
    ∃ t, s.Expands j t := by
  induction leads with
  | refl => exact ⟨sql, h⟩
  | tail _ refers ih =>
    obtain ⟨t, texts, found, kept, -⟩ := ih
    obtain ⟨b, found', hj⟩ := refers
    obtain rfl := Option.some.inj (found.symm.trans found')
    exact ⟨_, kept _ hj⟩

theorem Expands.not_circular (h : s.Expands id sql) : ¬s.Circular id := by
  induction h with
  | @intro id b sql texts found kept written ih =>
    -- A cycle that is come to at all is come to from a statement that is kept here.
    have later : ∀ j, s.Reaches id j → TransGen s.Refers j j →
        ∃ m, s.Refers id m ∧ s.Reaches m j := by
      intro j leads cycle
      rcases ReflTransGen.cases_head leads with rfl | ⟨m, refers, leads⟩
      · exact TransGen.head'_iff.mp cycle
      · exact ⟨m, refers, leads⟩
    rintro ⟨j, leads, cycle⟩
    obtain ⟨m, ⟨b', found', hm⟩, leads⟩ := later j leads cycle
    obtain rfl := Option.some.inj (found.symm.trans found')
    exact ih m hm ⟨j, leads, cycle⟩

/-! ## Rendering expands -/

/-- If each of some outcomes is there or lacks a finite text, so do they together. -/
theorem mapM_cases {α β : Type} {f : α → Outcome β} {items : List α}
    (h : ∀ a ∈ items, (∃ b, f a = .ok b) ∨ f a = .error .unboundedText) :
    (∀ a ∈ items, ∃ b, f a = .ok b) ∨ items.mapM f = .error .unboundedText := by
  induction items with
  | nil => exact .inl nofun
  | cons a rest ih =>
    obtain ⟨first, others⟩ := List.forall_mem_cons.mp h
    rw [List.mapM_cons]
    rcases first with ⟨b, made⟩ | failed
    · rcases ih others with all | failed
      · exact .inl (List.forall_mem_cons.mpr ⟨⟨b, made⟩, all⟩)
      · exact .inr (by rw [made, failed]; rfl)
    · exact .inr (by rw [failed]; rfl)

/-- A legible builder is written if all that it keeps is. -/
theorem render_of_shown {b : Builder} (legible : b.Legible) {r : Resolver}
    (shown : ∀ j, .builder j ∈ b.references → ∃ t, r.statement j = .ok t) :
    ∃ sql, b.render r = .ok sql := by
  obtain ⟨f, -, made⟩ := legible.render_madeOf
  obtain ⟨texts, read, -⟩ := exists_mapM (P := fun _ => True) fun j hj =>
    (shown j (mem_statements.mp hj)).imp fun t text => ⟨text, trivial⟩
  exact ⟨f texts, (made r).trans (by rw [read]; rfl)⟩

/-- If something that it keeps is not, there is no finite text. -/
theorem render_legible {b : Builder} (legible : b.Legible) {r : Resolver}
    (h : ∀ j, .builder j ∈ b.references →
      (∃ t, r.statement j = .ok t) ∨ r.statement j = .error .unboundedText) :
    (∀ j, .builder j ∈ b.references → ∃ t, r.statement j = .ok t) ∨
      b.render r = .error .unboundedText := by
  obtain ⟨f, -, made⟩ := legible.render_madeOf
  rcases mapM_cases fun j hj => h j (mem_statements.mp hj) with all | failed
  · exact .inl fun j hj => all j (mem_statements.mpr hj)
  · exact .inr ((made r).trans (by rw [failed]; rfl))

/-- Statements that have expansions are put together to one. -/
theorem Expands.of_shown {b : Builder} {r : Resolver} (found : s.builders[id]? = some b)
    (kept : ∀ j, .builder j ∈ b.references → ∃ t, r.statement j = .ok t ∧ s.Expands j t)
    (quoted : r.quoted = s.quoted) (written : b.render r = .ok sql) : s.Expands id sql := by
  refine .intro (fun j => (r.statement j).toOption.getD "") found (fun j hj => ?_)
    (Eq.trans ?_ written)
  · obtain ⟨t, shown, expands⟩ := kept j hj
    simpa [shown, Except.toOption] using expands
  · refine Builder.render_congr fun c hc => ⟨fun j hj => ?_, fun x _ => congrFun quoted.symm x⟩
    obtain ⟨t, shown, -⟩ := kept j (List.mem_flatMap.mpr ⟨c, hc, hj⟩)
    simp [shown, Except.toOption]

/-- A statement is rendered as its expansion, or there is no finite text. -/
theorem textWithin_cases (legible : s.Legible) (pending : List Nat) (id : Nat) :
    (∃ sql, s.textWithin pending id = .ok sql ∧ s.Expands id sql) ∨
      s.textWithin pending id = .error .unboundedText := by
  fun_induction s.textWithin pending id with
  | case1 pending id inside b found ih =>
    have fine := legible b (List.mem_of_getElem? found)
    have shown : ∀ j, .builder j ∈ b.references →
        (∃ t, s.textWithin (pending.erase id) j = .ok t) ∨
          s.textWithin (pending.erase id) j = .error .unboundedText :=
      fun j _ => (ih j).imp_left (Exists.imp fun t known => known.1)
    refine (render_legible fine shown).imp_left fun all => ?_
    obtain ⟨sql, written⟩ := render_of_shown fine all
    refine ⟨sql, written, .of_shown found (fun j hj => ?_) rfl written⟩
    rcases ih j with known | failed
    · exact known
    · obtain ⟨t, text⟩ := all j hj
      simp [failed] at text
  | case2 pending id inside none => exact .inr rfl
  | case3 pending id outside => exact .inr rfl

/-- While everything that a statement leads to may still be entered, nothing is entered twice. -/
theorem textWithin_of_not_circular (legible : s.Legible) (pending : List Nat) (id : Nat)
    (inside : ∀ j, s.Reaches id j → j ∈ pending ∧ j < s.builders.length)
    (straight : ¬s.Circular id) : ∃ sql, s.textWithin pending id = .ok sql := by
  fun_induction s.textWithin pending id with
  | case1 pending id here b found ih =>
    refine render_of_shown (legible b (List.mem_of_getElem? found)) fun j hj => ?_
    have refers : s.Refers id j := ⟨b, found, hj⟩
    have straight' : ¬s.Circular j := by
      rintro ⟨k, leads, cycle⟩
      exact straight ⟨k, .head refers leads, cycle⟩
    refine ih j (fun k leads => ?_) straight'
    obtain ⟨pending', known⟩ := inside k (.head refers leads)
    have other : k ≠ id := by
      rintro rfl
      exact straight ⟨k, .refl, TransGen.head'_iff.mpr ⟨j, refers, leads⟩⟩
    exact ⟨(List.mem_erase_of_ne other).mpr pending', known⟩
  | case2 pending id here none =>
    have known := (inside id .refl).2
    simp at none
    omega
  | case3 pending id outside => exact absurd (inside id .refl).1 outside

theorem render_cases (legible : s.Legible) (id : Nat) :
    (∃ sql, s.render id = .ok sql ∧ s.Expands id sql) ∨ s.render id = .error .unboundedText :=
  textWithin_cases legible _ id

theorem Scoped.reaches (h : s.Scoped) (inside : id < s.builders.length) (leads : s.Reaches id j) :
    j < s.builders.length := by
  induction leads with
  | refl => exact inside
  | tail _ refers _ =>
    obtain ⟨b, found, hj⟩ := refers
    exact builder_mem_references.mp (h.links (x := .builder _) (by
      show _ ∈ s.links _
      rw [links_builder found]
      exact List.mem_cons_of_mem _ hj))

/-- If nothing is missing, a statement that leads to no cycle is rendered. -/
theorem render_of_not_circular (legible : s.Legible)
    (inside : ∀ j, s.Reaches id j → j < s.builders.length) (straight : ¬s.Circular id) :
    ∃ sql, s.render id = .ok sql :=
  textWithin_of_not_circular legible _ id
    (fun j leads => ⟨List.mem_range.mpr (inside j leads), inside j leads⟩) straight

/-- A statement has no finite text if and only if it leads to one that keeps itself. -/
theorem render_eq_unbounded (legible : s.Legible) (scope : s.Scoped)
    (inside : id < s.builders.length) :
    s.render id = .error .unboundedText ↔ s.Circular id := by
  constructor
  · intro failed
    by_contra straight
    obtain ⟨sql, written⟩ :=
      render_of_not_circular legible (fun j => scope.reaches inside) straight
    simp [written] at failed
  · intro circular
    rcases render_cases legible id with ⟨sql, -, expands⟩ | failed
    · exact absurd circular expands.not_circular
    · exact failed

/-- A statement is rendered as its expansion, if it has one. -/
theorem render_eq_ok (legible : s.Legible) : s.render id = .ok sql ↔ s.Expands id sql := by
  constructor
  · intro written
    rcases render_cases legible id with ⟨sql', written', expands⟩ | failed
    · exact Except.ok.inj (written'.symm.trans written) ▸ expands
    · simp [written] at failed
  · intro h
    have inside (j : Nat) (leads : s.Reaches id j) : j < s.builders.length := by
      obtain ⟨-, ⟨texts, found, -, -⟩⟩ := h.reaches leads
      exact (List.getElem?_eq_some_iff.mp found).1
    obtain ⟨sql', written⟩ := render_of_not_circular legible inside h.not_circular
    rcases render_cases legible id with ⟨sql'', written', expands⟩ | failed
    · rw [written', expands.unique h]
    · simp [written] at failed

/-- It is written around the texts that the statements which it keeps have themselves. -/
theorem render_eq_render (legible : s.Legible) {b : Builder} (found : s.builders[id]? = some b) :
    s.render id = b.render s.resolver := by
  have fine := legible b (List.mem_of_getElem? found)
  rcases render_legible fine (r := s.resolver) fun j _ =>
    (render_cases legible j).imp_left fun ⟨t, text, _⟩ => ⟨t, text⟩ with all | failed
  · obtain ⟨sql, written⟩ := render_of_shown fine all
    rw [written, render_eq_ok legible]
    refine .of_shown found (fun j hj => ?_) rfl written
    obtain ⟨t, text⟩ := all j hj
    exact ⟨t, text, (render_eq_ok legible).mp text⟩
  · rw [failed]
    rcases render_cases legible id with ⟨sql, -, expands⟩ | failed'
    · obtain ⟨texts, found', kept, -⟩ := expands
      obtain rfl := Option.some.inj (found.symm.trans found')
      obtain ⟨t, text⟩ := render_of_shown fine (r := s.resolver) fun j hj =>
        ⟨texts j, (render_eq_ok legible).mpr (kept j hj)⟩
      simp [failed] at text
    · exact failed'

end Store

end SelectBuilder
