import SelectBuilder.Proofs.Builder.Embedding
import SelectBuilder.Proofs.Session.Frame
import SelectBuilder.Store.Factory

/-!
# Embedded statements over runs

A call that takes a statement takes its text, and keeps nothing of the statement itself: what is
done to the statement later does not show, unless the caller refers to it in some other way.
-/
namespace SelectBuilder

namespace Store

/-- The same table comes of a statement and of its text. -/
theorem subquery_embeds {s : Store} {id : Nat} {sql : String} (shown : s.render id = .ok sql)
    (aliasName : Value) :
    s.helper "subquery" [.reference (.builder id), aliasName] =
      s.helper "subquery" [.text sql, aliasName] := by
  have embedded := Value.embedded_builder (r := s.resolver) shown
  simp only [helper, subquery, embedded]

end Store

namespace Session

variable {s : Session} {x : Step} {o k : Nat}

/-- A call brings a builder no nearer to another one than its operands are. -/
theorem apart_step {c : Call} (asked : s.request? x = some (o, c)) (apart : ¬s.store.Reaches o k)
    (free : ∀ j, .builder j ∈ c.references → ¬s.store.Reaches j k) :
    ¬(s.step x).1.store.Reaches o k := by
  cases called : s.store.call o c with
  | error e => rwa [(step_refused asked called).1]
  | ok p =>
    obtain ⟨b, change, found, planned, made, -⟩ := Store.call_eq_ok.mp called
    have store := (step_called asked called).1.trans made.symm
    -- Whatever the builder leads to now has not led to the other one before.
    have clear : ∀ j, (s.step x).1.store.Reaches o j → ¬s.store.Reaches j k := by
      intro j leads
      induction leads with
      | refl => exact apart
      | @tail i j _ refers ih =>
        intro leads
        obtain ⟨d, inside, hj⟩ := refers
        rw [store, Store.builders_setBuilder] at inside
        by_cases same : o = i
        · subst same
          rw [List.getElem?_set_self (List.getElem?_eq_some_iff.mp found).1] at inside
          cases inside
          rcases List.mem_append.mp (Builder.references_apply planned _ hj) with old | new
          · exact ih (.head ⟨b, found, old⟩ leads)
          · exact free j new leads
        · rw [List.getElem?_set_ne same] at inside
          exact ih (.head ⟨d, inside, hj⟩ leads)
    exact fun leads => clear k leads .refl

/-- Let a statement have a text. A call of another builder, or of the builder itself, that takes the
statement is answered like the call with the text in place of the statement, and leaves the same
session behind; likewise for the table that is made of the statement. Nothing that is called on the
statement later changes the text of the other builder, provided that the builder does not lead to
the statement already and none of the remaining operands does. -/
theorem call_embeds {id : Nat} {sql : String} (shown : s.store.render id = .ok sql) :
    (∀ aliasName, s.store.helper "subquery" [.reference (.builder id), aliasName] =
      s.store.helper "subquery" [.text sql, aliasName]) ∧
    ∀ on method args named args' named' c c', s.names.lookup on = some (.builder o) →
      Call.ofMethod method args named = .ok c → Call.ofMethod method args' named' = .ok c' →
      c.Embeds id sql c' →
      s.step (.call on method args named) = s.step (.call on method args' named') ∧
        (¬s.store.Reaches o id → (∀ j, .builder j ∈ c'.references → ¬s.store.Reaches j id) →
          ∀ later : List Step,
            (∀ y ∈ later, (s.step (.call on method args named)).1.Acts (· = .builder id) y) →
            ((s.step (.call on method args named)).1.run later).store.render o =
              (s.step (.call on method args named)).1.store.render o) := by
  refine ⟨Store.subquery_embeds shown, ?_⟩
  intro on method args named args' named' c c' found made made' embeds
  have same : s.step (.call on method args named) = s.step (.call on method args' named') :=
    step_congr found made made' fun b => Builder.plan_embeds shown embeds b
  have asked' : s.request? (.call on method args' named') = some (o, c') :=
    request?_call_eq_some.mpr ⟨found, made'⟩
  refine ⟨same, fun apart free later acts => ?_⟩
  obtain ⟨alike, keeps⟩ := acts_run acts
  exact Store.render_of_apart keeps alike.settings (same ▸ apart_step asked' apart free)

/-- A statement, and a second one that starts in the same way. -/
def beginning : List Step :=
  [.new "b" (.fields []), .call "b" "select" [.text "id"] [], .new "q" (.fields []),
    .call "q" "select" [.text "id"] []]

def extending : Step := .call "b" "limit" [.int 5] []

theorem call_embeds_united :
    (initial.run beginning).step (.call "q" "union" [.reference (.builder 0)] []) =
        (initial.run beginning).step (.call "q" "union" [.text "SELECT id"] []) ∧
      (((initial.run beginning).step (.call "q" "union" [.reference (.builder 0)] [])).1.run
          [extending]).store.render 1 =
        ((initial.run beginning).step
          (.call "q" "union" [.reference (.builder 0)] [])).1.store.render 1 := by
  have shown : (initial.run beginning).store.render 0 = .ok "SELECT id" := by decide +kernel
  have apart : ¬(initial.run beginning).store.Reaches 1 0 := by
    intro leads
    rcases Relation.ReflTransGen.cases_head leads with same | ⟨j, ⟨b, found, inside⟩, -⟩
    · cases same
    · cases found
      cases inside
  obtain ⟨same, kept⟩ := (call_embeds shown).2 "q" "union" [.reference (.builder 0)] []
    [.text "SELECT id"] [] (.union false (.reference (.builder 0)))
    (.union false (.text "SELECT id")) rfl rfl rfl (.union false)
  exact ⟨same, kept apart nofun [extending] fun y hy => by
    obtain rfl := List.mem_singleton.mp hy
    exact ⟨0, by decide +kernel, rfl⟩⟩

/-- The second statement has the first one as its table. -/
def referring : Session :=
  initial.run (beginning ++ [.call "q" "from_" [.reference (.builder 0)] []])

/-- What is done to a statement later may show all the same: the caller may refer to the statement,
or be the statement itself. -/
theorem call_embeds_referring :
    referring.store.render 0 = .ok "SELECT id" ∧
      ((referring.step (.call "q" "union" [.reference (.builder 0)] [])).1.run
          [extending]).store.render 1 ≠
        (referring.step (.call "q" "union" [.reference (.builder 0)] [])).1.store.render 1 ∧
      ((referring.step (.call "b" "union" [.reference (.builder 0)] [])).1.run
          [extending]).store.render 0 ≠
        (referring.step (.call "b" "union" [.reference (.builder 0)] [])).1.store.render 0 :=
  ⟨by decide +kernel, by decide +kernel, by decide +kernel⟩

end Session

end SelectBuilder
