import SelectBuilder.Proofs.Builder.Lasting
import SelectBuilder.Proofs.Session.Run
import SelectBuilder.Proofs.Store.Rendering

/-!
# Lasting calls in a session

An accepted call may leave a statement without a text. It does so if and only if it is not lasting.
-/
namespace SelectBuilder

namespace Session

variable {s : Session} {x : Step} {id : Nat} {c : Call}

/-- Let a builder have a text, and let it accept a call without builders among its operands. It then
has a text if and only if the operands that the added clause is made of have texts themselves where
they are needed; for operators, joins, groupings and unions nothing is left to be asked. -/
theorem render_isOk_step (rendered : ∃ sql, s.store.render id = .ok sql)
    (accepted : s.acceptedBy id x = some c) (free : ∀ k, Reference.builder k ∉ c.references) :
    (∃ sql, (s.step x).1.store.render id = .ok sql) ↔ c.Lasting s.store.resolver := by
  obtain ⟨b, change, found, planned, store⟩ :=
    store_accepted (acceptedBy_iff_accepted?.mp accepted)
  let r : Resolver :=
    ⟨s.store.textWithin ((List.range s.store.builders.length).erase id), s.store.quoted⟩
  have before : b.Fits r := by
    rw [← Builder.render_isOk, ← Store.render_eq found]
    exact rendered
  rw [store, Store.render_setBuilder found (Builder.config_apply ..), Builder.render_isOk,
    Builder.fits_apply]
  cases change with
  | append clause =>
    -- No operand is a statement, so it does not matter which ones may still be entered.
    have agree : r.Agree s.store.resolver clause.references :=
      ⟨fun k hk => absurd (Builder.plan_references planned hk) (free k), fun _ _ => rfl⟩
    have same : clause.Fits r ↔ c.Lasting s.store.resolver :=
      (Clause.fits_congr agree).trans (Builder.fits_iff_lasting free planned)
    constructor
    · exact fun after => same.mp (after.2 clause rfl)
    · rintro lasting
      refine ⟨before, fun d new => ?_⟩
      cases new
      exact same.mpr lasting
  | extend op part stage =>
    exact iff_of_true ⟨before, nofun⟩ (Builder.lasting_of_extend planned)

/-- A statement that has a text. -/
def selected : List Step := [.new "b" (.fields []), .call "b" "select" [.text "id"] []]

/-- A condition on what is no text is accepted, and the statement cannot be written any more. -/
theorem where_without_text :
    (initial.run selected).store.render 0 = .ok "SELECT id" ∧
      ((initial.run selected).step (.call "b" "where" [.int 5] [])).2.outcome = .ok .done ∧
      ((initial.run selected).step (.call "b" "where" [.int 5] [])).1.store.render 0 =
        .error .wrongType := by
  exact ⟨by decide +kernel, rfl, by decide +kernel⟩

/-- The same happens with an entry of a list whose direction is a text. -/
theorem render_isOk_step_directed :
    ¬∃ sql, ((initial.run selected).step
      (.call "b" "order_by" [.order (.text "a") (.text "desc")] [])).1.store.render 0 =
        .ok sql := by
  intro written
  have lasting := (@render_isOk_step (initial.run selected)
    (.call "b" "order_by" [.order (.text "a") (.text "desc")] []) 0
    (.orderBy [.order (.text "a") (.text "desc")]) ⟨"SELECT id", by decide +kernel⟩ rfl
    (by simp [Call.references, Call.operands])).mp written
  obtain ⟨-, d, direction, -⟩ := lasting _ (List.mem_singleton.mpr rfl) _ rfl
  cases direction

end Session

end SelectBuilder
