import SelectBuilder.Proofs.Builder.CallText
import SelectBuilder.Proofs.Builder.Consistency

/-!
# Statements as sequences of texts

Under strict settings a cursor can only be on the last clause. A part that is added to the condition
there is thus added at the end of the statement, just as a clause of its own would be.
-/
namespace SelectBuilder

/-- A further text stands at the end, after a separator if there is something before it. -/
theorem intercalate_concat (separator : String) (ts : List String) (t : String) :
    String.intercalate separator (ts ++ [t]) =
      if ts = [] then t else String.intercalate separator ts ++ separator ++ t := by
  split
  · next empty => simp [empty]
  · next some =>
    rw [String.intercalate_append_of_ne_nil some (by simp), String.intercalate_singleton]

theorem joinContents_concat {separator t : String} {vs : List Value} (some : vs ≠ [])
    (joined : joinContents separator vs = .ok t) (part : String) :
    joinContents separator (vs ++ [.text part]) = .ok (t ++ separator ++ part) := by
  unfold joinContents at joined ⊢
  split at joined
  · next texts contents =>
    cases joined
    have filled : texts ≠ [] := by
      rintro rfl
      cases vs with
      | nil => exact some rfl
      | cons v rest =>
        rw [List.mapM_cons] at contents
        obtain ⟨c, -, contents⟩ := Option.bind_eq_some_iff.mp contents
        obtain ⟨cs, -, contents⟩ := Option.bind_eq_some_iff.mp contents
        cases contents
    have more : (vs ++ [Value.text part]).mapM Value.content? = Option.some (texts ++ [part]) := by
      simp [List.mapM_append, contents]
    simp only [more, intercalate_concat, if_neg filled]
  · cases joined

/-- A part of a condition stands at the end of its text. -/
theorem Clause.render_extend {r : Resolver} {kind : ConditionKind} {head : Value}
    {parts : List String} {t : String} (rendered : (condition kind head parts).render r = .ok t)
    (part : String) :
    (condition kind head (parts ++ [part])).render r = .ok (t ++ " " ++ part) := by
  have joined := joinContents_concat (by simp) rendered part
  simpa [render, conditionText] using joined

theorem modify_last {α : Type} (init : List α) (a : α) (f : α → α) :
    (init ++ [a]).modify init.length f = init ++ [f a] := by
  induction init with
  | nil => rfl
  | cons b rest ih => simpa using ih

namespace Builder

/-- A statement consists of texts, and a cursor is on its last clause. -/
structure Spells (b : Builder) (ts : List String) : Prop where
  texts : ∀ r, ∃ us, b.clauses.mapM (Clause.render r) = .ok us ∧
    String.intercalate " " us = String.intercalate " " ts ∧ (us = [] ↔ ts = [])
  last : ∀ i, b.cursor = some i → ∃ init kind head parts,
    b.clauses = init ++ [.condition kind head parts] ∧ init.length = i

theorem Spells.fresh (config : Nat) : Spells { config := config } [] :=
  ⟨fun _ => ⟨[], rfl, rfl, Iff.rfl⟩, nofun⟩

theorem Spells.render {b : Builder} {ts : List String} (h : b.Spells ts) (r : Resolver) :
    b.render r = .ok (String.intercalate " " ts) := by
  obtain ⟨us, rendered, same, -⟩ := h.texts r
  rw [Builder.render, rendered, Outcome.ok_bind, same]
  rfl

theorem Spells.append {b : Builder} {ts : List String} {c : Clause} {t : String}
    (h : b.Spells ts) (writes : ∀ r, c.render r = .ok t) :
    (b.apply true (.append c)).Spells (ts ++ [t]) := by
  constructor
  · intro r
    obtain ⟨us, rendered, same, empty⟩ := h.texts r
    refine ⟨us ++ [t], ?_, ?_, by simp⟩
    · exact Outcome.mapM_concat_eq_ok.mpr ⟨us, t, rendered, writes r, rfl⟩
    · rw [intercalate_concat, intercalate_concat, same]
      simp only [empty]
  · intro i hi
    rcases cursor_apply_append.mp hi with ⟨is, rfl⟩ | ⟨-, relaxed, -⟩
    · cases c with
      | condition kind head parts => exact ⟨b.clauses, kind, head, parts, rfl, rfl⟩
      | _ => cases is
    · cases relaxed

theorem Spells.extend {b : Builder} {ts : List String} {op part : String} {stage : Stage}
    (h : b.Spells ts) (current : b.current?.isSome) :
    (b.apply true (.extend op part stage)).Spells (ts ++ [part]) := by
  obtain ⟨place, cursor⟩ : ∃ place, b.cursor = some place := by
    cases hc : b.cursor <;> simp_all [current?]
  obtain ⟨init, kind, head, parts, clauses, rfl⟩ := h.last place cursor
  have extended : (b.apply true (.extend op part stage)).clauses =
      init ++ [.condition kind head (parts ++ [part])] := by
    simp [apply, enter, settle, Builder.extend, cursor, clauses, modify_last, Clause.extend]
  constructor
  · intro r
    obtain ⟨us, rendered, same, empty⟩ := h.texts r
    rw [clauses] at rendered
    obtain ⟨front, u, before, final, rfl⟩ := Outcome.mapM_concat_eq_ok.mp rendered
    have some : ts ≠ [] := fun none => by simpa using empty.mpr none
    refine ⟨front ++ [u ++ " " ++ part], ?_, ?_, by simp⟩
    · rw [extended]
      exact Outcome.mapM_concat_eq_ok.mpr ⟨front, _, before, Clause.render_extend final part, rfl⟩
    · rw [intercalate_concat " " ts, if_neg some, ← same, intercalate_concat, intercalate_concat]
      split <;> simp [String.append_assoc]
  · intro i hi
    have stays : (b.apply true (.extend op part stage)).cursor = b.cursor := cursor_extend ..
    rw [stays, cursor] at hi
    cases hi
    exact ⟨init, kind, head, parts ++ [part], extended, rfl⟩

/-- Under strict settings an accepted call adds its text to the end of the statement. -/
theorem Spells.apply {ctx : Context} {b : Builder} {ts : List String} {c : Call} {change : Change}
    (h : b.Spells ts) (typed : c.Typed) (planned : b.plan ctx c = .ok change) :
    (b.apply true change).Spells (ts ++ [c.text ctx.resolver.quoted]) := by
  have writes := plan_writes typed planned
  have admits := plan_admits planned
  cases change with
  | append clause => exact h.append writes
  | extend op part stage =>
    cases writes
    exact h.extend admits.1

end Builder

end SelectBuilder
