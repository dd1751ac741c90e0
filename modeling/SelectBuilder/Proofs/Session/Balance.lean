import SelectBuilder.Proofs.Builder.Balance
import SelectBuilder.Proofs.Session.Closure

/-!
# Balanced statements in a session

Whatever calls with balanced operands are made, and whatever the settings are, the texts of all
statements and of their clauses are balanced.
-/
namespace SelectBuilder

open Outcome

namespace Store

variable {s : Store} {id : Nat} {b : Builder}

/-- In a store of settled builders no statement has an unbalanced text. -/
theorem render_balanced (settled : s.Each Builder.Settled) (id : Nat) :
    Gives Text.Balanced (s.render id) := by
  cases found : s.builders[id]? with
  | some b =>
    rw [render_eq found]
    exact Builder.Settled.render (settled b (List.mem_of_getElem? found)) _
  | none =>
    have outside : id ∉ List.range s.builders.length := by
      simpa using List.getElem?_eq_none_iff.mp found
    rw [render, textWithin, dif_neg outside]
    exact gives_error _

/-- A settled builder has a text unless a place of a clause that a text should be in holds some
other value. -/
theorem render_settled (settled : b.Settled) (found : s.builders[id]? = some b) :
    (∃ sql, s.render id = .ok sql) ↔ ∀ c ∈ b.clauses, c.Fits s.resolver := by
  have same : s.render id = b.render s.resolver := by
    rw [render_eq found]
    exact Builder.render_congr fun c hc => (settled c hc).references ▸ .nil _ _
  rw [same, Builder.render_isOk]
  rfl

end Store

theorem settled_keptBy : KeptBy Builder.Settled Call.Balanced where
  fresh := Builder.fresh_settled
  copied _ _ _ h := h.relocate _
  called s all b among _ balanced _ strict planned := by
    have texts (id : Nat) : Gives Text.Balanced ((s.contextOf b).resolver.statement id) :=
      Store.render_balanced all id
    exact (all b among).apply (Builder.plan_settled balanced texts planned) strict

namespace Session

/-- Let the operands of the calls of a run be balanced, with statements only where they are taken as
their texts. Then the texts of all statements are balanced, as those of their clauses are, under any
configuration; and a statement has a text unless a place of a clause that a text should be in holds
some other value. -/
theorem balanced_run {xs : List Step} (balanced : ∀ x ∈ xs, x.Calls Call.Balanced) :
    ∀ id b, (initial.run xs).store.builders[id]? = some b →
      (∀ sql, (initial.run xs).store.render id = .ok sql → Text.Balanced sql) ∧
      (∀ c ∈ b.clauses, ∀ t, c.render (initial.run xs).store.resolver = .ok t →
        Text.Balanced t) ∧
      ((∃ sql, (initial.run xs).store.render id = .ok sql) ↔
        ∀ c ∈ b.clauses, c.Fits (initial.run xs).store.resolver) := by
  have settled : (initial.run xs).store.Each Builder.Settled :=
    each_run settled_keptBy (by simp [Store.Each, initial]) balanced
  intro id b found
  have mine := settled b (List.mem_of_getElem? found)
  exact ⟨Store.render_balanced settled id, fun c hc => (mine c hc).render _,
    Store.render_settled mine found⟩

/-- A statement is the source of another one, in a lenient setting, and both have parentheses of
their own. -/
def enclosed : List Step :=
  [.new "b" (.fields []), .call "b" "select" [.text "count(id)"] [],
    .call "b" "from_" [.text "t"] [], .call "b" "where" [.text "f(a, (b))"] [],
    .call "b" "in_" [.list [.int 1, .text "g()"]] [],
    .new "q" (.fields [("strict_fragments", .bool false)]),
    .call "q" "select" [.text "*"] [], .call "q" "where" [.text "h(n)"] [],
    .call "q" "from_subquery" [.reference (.builder 0), .text "s"] [],
    .call "q" "not_in" [.tuple [.reference (.builder 0), .number (.int 2)]] []]

/-- The text of the statement with the other one in it. -/
def enclosedText : String :=
  "SELECT * WHERE h(n) NOT IN (SELECT count(id) FROM t WHERE f(a, (b)) IN (1, g()), 2) " ++
    "FROM ( SELECT count(id) FROM t WHERE f(a, (b)) IN (1, g()) ) AS s"

theorem balanced_run_nested :
    (initial.run enclosed).store.render 1 = .ok enclosedText ∧ Text.Balanced enclosedText := by
  have word {s : String} (h : Text.Balanced s) (proper : Text.Proper s) :
      (Value.text s).Balanced := ⟨h, proper⟩
  have calls {on method : String} {args : List Value} {c : Call}
      (made : Call.ofMethod method args [] = .ok c) (h : c.Balanced) (other : method ≠ "select") :
      (Step.call on method args []).Calls Call.Balanced :=
    Step.calls_of_made made h fun same => absurd same other
  have balanced : ∀ x ∈ enclosed, x.Calls Call.Balanced := by
    simp only [enclosed, List.forall_mem_cons]
    have columns {s : String} (h : (Value.text s).Balanced) : (Call.select [.text s]).Balanced :=
      List.forall_mem_singleton.mpr h
    have count : (Call.select [.text "count(id)"]).Balanced :=
      columns (word (by decide +kernel) (by decide +kernel))
    have all : (Call.select [.text "*"]).Balanced := columns (word (by decide) (by decide))
    have inner : Value.BalancedListing (.list [.int 1, .text "g()"]) := by
      refine .inl (.inl ?_)
      exact ⟨trivial, word (by decide) (by decide), trivial⟩
    have outer : Value.BalancedListing (.tuple [.reference (.builder 0), .number (.int 2)]) := by
      refine .inr ⟨rfl, _, rfl, ?_⟩
      exact List.forall_mem_cons.mpr ⟨.inr ⟨0, rfl⟩, List.forall_mem_singleton.mpr (.inl trivial)⟩
    refine ⟨trivial, Step.calls_of_made rfl count fun _ => count, ?_, ?_, ?_, trivial,
      Step.calls_of_made rfl all fun _ => all, ?_, ?_, ?_, nofun⟩
    · exact calls rfl ⟨word (by decide) (by decide), trivial⟩ (by decide)
    · exact calls rfl (word (by decide +kernel) (by decide +kernel)) (by decide)
    · exact calls rfl inner (by decide)
    · exact calls rfl (word (by decide +kernel) (by decide +kernel)) (by decide)
    · exact calls rfl ⟨.inr ⟨0, rfl⟩, word (by decide) (by decide)⟩ (by decide)
    · exact calls rfl outer (by decide)
  have rendered : (initial.run enclosed).store.render 1 = .ok enclosedText := by decide +kernel
  have known : (initial.run enclosed).store.builders[1]?.isSome := by decide +kernel
  obtain ⟨b, found⟩ := Option.isSome_iff_exists.mp known
  obtain ⟨texts, -⟩ := balanced_run balanced 1 b found
  exact ⟨rendered, texts _ rendered⟩

end Session

end SelectBuilder
