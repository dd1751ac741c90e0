import SelectBuilder.Proofs.Builder.Pagination
import SelectBuilder.Proofs.Session.Keywords
import SelectBuilder.Proofs.Session.Subqueries

/-!
# Pages in a session

Under checked pagination a step is made for every page, and for nothing else. What it adds to the
statement shows the numbers of the page.
-/
namespace SelectBuilder

open Outcome

namespace Session

variable {s : Session} {x : Step} {id : Nat} {b : Builder} {count offset : Value}

theorem appends_page {p : Page} (found : s.store.builders[id]? = some b)
    (asked : s.request? x = some (id, .paginate count offset)) (given : p.Given count offset) :
    s.Appends id x (.limit count offset) p.text :=
  .of_plan found asked (Builder.planPaginate_page _ given) fun r => Builder.render_limit r given

/-- What is no page is refused when both operands can be shown, and otherwise showing them fails,
the count first. -/
theorem refused_page (found : s.store.builders[id]? = some b)
    (checks : (s.store.configOf b).checkPagination.isTrue)
    (asked : s.request? x = some (id, .paginate count offset))
    (malformed : ¬(Builder.isCount count ∧ (offset.isNull ∨ Builder.isCount offset))) :
    (s.step x).1 = s ∧ (s.step x).2.outcome =
      (do
        let c ← count.quotedForm s.store.resolver.quoted
        let o ← offset.quotedForm s.store.resolver.quoted
        misuse (.paginationMalformed c o)) := by
  have planned : b.plan (s.store.contextOf b) (.paginate count offset) =
      (do
        let c ← count.quotedForm s.store.resolver.quoted
        let o ← offset.quotedForm s.store.resolver.quoted
        misuse (.paginationMalformed c o)) := Builder.planPaginate_malformed checks malformed
  cases shown : count.quotedForm s.store.resolver.quoted with
  | error e =>
    rw [shown] at planned
    exact refused_of_plan found asked planned
  | ok c =>
    rw [shown] at planned
    cases shown' : offset.quotedForm s.store.resolver.quoted with
    | error e =>
      rw [shown'] at planned
      exact refused_of_plan found asked planned
    | ok o =>
      rw [shown'] at planned
      exact refused_of_plan found asked planned

/-- In any session let pagination be asked of a builder that checks it, with operands that are no
codes. The step succeeds if and only if the operands are a page: a natural number, and nothing or
another one. It adds a clause whose text has both numbers in digits and shows no other page.
Anything else is refused, and the session stays as it is; only if an operand cannot be shown in the
message does showing it fail instead. -/
theorem pagination_step (found : s.store.builders[id]? = some b)
    (checks : (s.store.configOf b).checkPagination.isTrue)
    (asked : s.request? x = some (id, .paginate count offset))
    (counted : ∀ c, count ≠ .code c) (skipped : ∀ c, offset ≠ .code c) :
    ((s.step x).2.outcome.isOk ↔ ∃ p, Page.Given count offset p) ∧
    (∀ p, Page.Given count offset p → ∃ clause text, s.Appends id x clause text ∧
      p.Shown text ∧ ∀ q, Page.Shown q text → q = p) ∧
    ((¬∃ p, Page.Given count offset p) → (s.step x).1 = s ∧
      (∀ c o, count.quotedForm s.store.resolver.quoted = .ok c →
        offset.quotedForm s.store.resolver.quoted = .ok o →
        (s.step x).2.outcome = .error (.misuse (.paginationMalformed c o))) ∧
      (∀ e, count.quotedForm s.store.resolver.quoted = .error e →
        (s.step x).2.outcome = .error e) ∧
      ∀ c e, count.quotedForm s.store.resolver.quoted = .ok c →
        offset.quotedForm s.store.resolver.quoted = .error e →
        (s.step x).2.outcome = .error e) ∧
    ∀ c o, (Misuse.paginationMalformed c o).kind.name = "InvalidPaginationError" ∧
      (Misuse.paginationMalformed c o).code?.map ErrorCode.number = some 1019 := by
  have page := Builder.exists_page_iff counted skipped
  have stopped : (¬∃ p, Page.Given count offset p) → _ := fun malformed =>
    refused_page found checks asked (page.not.mpr malformed)
  refine ⟨⟨fun succeeded => ?_, fun ⟨p, given⟩ => ?_⟩, fun p given => ?_, fun malformed => ?_,
    fun c o => ⟨rfl, rfl⟩⟩
  · by_contra malformed
    rw [(stopped malformed).2] at succeeded
    obtain ⟨result, answered⟩ := isOk_iff.mp succeeded
    simp [bind_eq_ok, misuse] at answered
  · rw [(appends_page found asked given).answered]
    rfl
  · exact ⟨_, _, appends_page found asked given, p.shown_text, fun q shown =>
      shown.unique p.shown_text⟩
  · obtain ⟨same, outcome⟩ := stopped malformed
    refine ⟨same, fun c o hc ho => ?_, fun e hc => ?_, fun c e hc ho => ?_⟩
    · rw [outcome, hc, ok_bind, ho]
      rfl
    · rw [outcome, hc]
      rfl
    · rw [outcome, hc, ok_bind, ho]
      rfl

def paginate (count offset : Value) : Step := .call "b" "pagination" [count, offset] []

/-- An offset of zero is shown, and a truth value is no count. -/
theorem pagination_step_zero :
    (∃ clause text, unfilled.Appends 0 (paginate (.int 10) (.int 0)) clause text ∧
      Page.Shown ⟨10, some 0⟩ text) ∧
    (unfilled.step (paginate (.bool true) .null)).2.outcome =
      .error (.misuse (.paginationMalformed "True" "None")) := by
  obtain ⟨-, adds, -⟩ := @pagination_step unfilled (paginate (.int 10) (.int 0)) 0 _ (.int 10)
    (.int 0) rfl rfl rfl nofun nofun
  obtain ⟨-, -, refused, -⟩ := @pagination_step unfilled (paginate (.bool true) .null) 0 _
    (.bool true) .null rfl rfl rfl nofun nofun
  obtain ⟨clause, text, appends, shown, -⟩ := adds ⟨10, some 0⟩ ⟨rfl, rfl⟩
  refine ⟨⟨clause, text, appends, shown⟩, (refused ?_).2.1 "True" "None" rfl rfl⟩
  rintro ⟨p, given, -⟩
  cases given

/-- A count that cannot be shown is no page and is not refused as none: showing it fails. -/
theorem pagination_unshown :
    (unfilled.store.builders[0]?.map fun b =>
      (unfilled.store.configOf b).checkPagination.isTrue) = some true ∧
    (¬∃ p, Page.Given unshown .null p) ∧
    (unfilled.step (paginate unshown .null)).2.outcome = .error .wrongType ∧
    ¬∃ c o, (unfilled.step (paginate unshown .null)).2.outcome =
      .error (.misuse (.paginationMalformed c o)) := by
  have failed : (unfilled.step (paginate unshown .null)).2.outcome = .error .wrongType := rfl
  refine ⟨rfl, ?_, failed, ?_⟩
  · rintro ⟨p, given, -⟩
    cases given
  · rintro ⟨c, o, same⟩
    rw [failed] at same
    cases same

end Session

end SelectBuilder
