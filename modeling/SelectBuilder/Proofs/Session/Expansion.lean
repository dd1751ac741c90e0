import SelectBuilder.Proofs.Builder.Keeping
import SelectBuilder.Proofs.Session.Closure
import SelectBuilder.Proofs.Session.Conditions
import SelectBuilder.Proofs.Session.Copying
import SelectBuilder.Proofs.Session.Embedding
import SelectBuilder.Proofs.Store.Expansion

/-!
# Expansion after runs

Statements may keep one another, and themselves. Whatever legible calls are made, a statement has a
text unless it leads to one that keeps itself. Calls that keep a statement are accepted whatever
comes of it, and calls that take its text are refused if there is none.
-/
namespace SelectBuilder

open Relation Outcome

/-- The calls of a step are legible. -/
def Step.Legible : Step → Prop
  | .call _ method args named =>
    (∀ c, Call.ofMethod method args named = .ok c → c.Legible) ∧
      (method = "select" → (Call.select args).Legible)
  | .select _ _ columns _ => (Call.select columns).Legible
  | _ => True

theorem Step.legible_of_made {on method : String} {args : List Value}
    {named : List (String × Value)} {c : Call} (made : Call.ofMethod method args named = .ok c)
    (legible : c.Legible) (select : method = "select" → (Call.select args).Legible) :
    (Step.call on method args named).Legible :=
  (Step.calls_of_made made legible select : (Step.call on method args named).Calls Call.Legible)

theorem Step.Legible.calls {x : Step} (h : x.Legible) : x.Calls Call.Legible := by
  cases x <;> exact h

theorem legible_keptBy : KeptBy Builder.Legible Call.Legible where
  fresh := Builder.fresh_legible
  copied f g _ h := h.relocate f g
  called _ all b among _ legible _ strict planned :=
    (all b among).apply (fun _ same => (Builder.plan_legible legible (same ▸ planned)).1) strict

namespace Session

variable {s : Session} {x : Step} {o : Nat}

theorem legible_run (h : s.store.Legible) {xs : List Step} (legible : ∀ x ∈ xs, x.Legible) :
    (s.run xs).store.Legible :=
  each_run legible_keptBy h fun x hx => (legible x hx).calls

/-! ## What a call makes of a statement -/

/-- An accepted call refers to what it keeps, and to nothing else that is new. -/
theorem refers_step {c : Call} (accepted : s.acceptedBy o x = some c) (legible : c.Legible)
    (i j : Nat) :
    (s.step x).1.store.Refers i j ↔ s.store.Refers i j ∨ i = o ∧ .builder j ∈ c.kept := by
  obtain ⟨b, change, found, planned, store⟩ :=
    store_accepted (acceptedBy_iff_accepted?.mp accepted)
  rw [store, Store.refers_setBuilder found, Builder.references_apply_legible legible planned]
  by_cases same : i = o
  · subst same
    simp [Store.Refers, found]
  · simp [same]

section

variable {on method : String} {args args' : List Value} {named named' : List (String × Value)}
  {c c' : Call} {id : Nat} {sql : String} {b : Builder}

/-- A call that would be accepted with a text is refused for want of it, and nothing is changed. -/
theorem step_unshown (bound : s.names.lookup on = some (.builder o))
    (found : s.store.builders[o]? = some b) (made : Call.ofMethod method args named = .ok c)
    (made' : Call.ofMethod method args' named' = .ok c') (embeds : c.Embeds id sql c')
    (unshown : s.store.render id = .error .unboundedText)
    (ok : (s.step (.call on method args' named')).2.outcome.isOk) :
    (s.step (.call on method args named)).1 = s ∧
      (s.step (.call on method args named)).2.outcome = .error .unboundedText := by
  rw [step_request bound found made'] at ok
  cases planned : b.plan (s.store.contextOf b) c' with
  | error e =>
    rw [planned] at ok
    cases ok
  | ok change =>
    have refused : b.plan (s.store.contextOf b) c = .error .unboundedText :=
      Builder.plan_unshown unshown embeds planned
    exact step_refused (request?_call_eq_some.mpr ⟨bound, made⟩)
      (Store.call_eq_error found refused)

/-- Whether a call is accepted does not depend on what it keeps. -/
theorem step_rekept (F : Reference → Reference) (bound : s.names.lookup on = some (.builder o))
    (found : s.store.builders[o]? = some b) (made : Call.ofMethod method args named = .ok c)
    (made' : Call.ofMethod method args' named' = .ok (c.rekept F)) :
    (s.step (.call on method args' named')).2.outcome.isOk ↔
      (s.step (.call on method args named)).2.outcome.isOk := by
  have isOk (m : Outcome Change) :
      (m.map fun _ => Result.done).isOk ↔ ∃ change, m = .ok change := by
    cases m <;> simp [Except.map, Except.isOk, Except.toBool]
  rw [step_request bound found made, step_request bound found made', isOk, isOk,
    Builder.plan_rekept]

end

/-! ## Reachable sessions -/

/-- A session that legible steps lead to. The operands of its steps refer to objects that are
there. -/
def LegiblyReached (s : Session) : Prop :=
  ∃ xs, initial.Knows xs ∧ (∀ x ∈ xs, x.Legible) ∧ initial.run xs = s

/-- A statement has no finite text if and only if it leads to one that keeps itself. Otherwise it is
rendered, as the text in which every statement that is kept is replaced by its text, and so on; this
text has the statements in it that it keeps, as they are rendered themselves. A call adds references
to what it keeps, and no others. If it takes the text of a statement that has none, and would be
accepted with a text, it is refused for want of a finite text, and nothing is changed. Whether it is
accepted does not depend on which statements it keeps. -/
theorem expansion_run (reached : s.LegiblyReached) :
    (∀ id b, s.store.builders[id]? = some b →
      (s.store.render id = .error .unboundedText ↔ s.store.Circular id) ∧
      (¬s.store.Circular id → ∃ sql, s.store.render id = .ok sql) ∧
      (∀ sql, s.store.render id = .ok sql ↔ s.store.Expands id sql) ∧
      s.store.render id = b.render s.store.resolver) ∧
    (∀ x o c, s.acceptedBy o x = some c → c.Legible → ∀ i j,
      (s.step x).1.store.Refers i j ↔ s.store.Refers i j ∨ i = o ∧ .builder j ∈ c.kept) ∧
    ∀ on o method args named c, s.names.lookup on = some (.builder o) →
      Call.ofMethod method args named = .ok c →
      (∀ args' named' c' id sql, Call.ofMethod method args' named' = .ok c' → c.Embeds id sql c' →
        (s.step (.call on method args' named')).2.outcome.isOk →
        s.store.render id = .error .unboundedText →
        (s.step (.call on method args named)).1 = s ∧
          (s.step (.call on method args named)).2.outcome = .error .unboundedText) ∧
      ∀ F args' named', Call.ofMethod method args' named' = .ok (c.rekept F) →
        ((s.step (.call on method args' named')).2.outcome.isOk ↔
          (s.step (.call on method args named)).2.outcome.isOk) := by
  obtain ⟨xs, knows, legible, rfl⟩ := reached
  have scope := scoped_initial.run knows
  have fine : (initial.run xs).store.Legible :=
    legible_run (by simp [Store.Legible, initial]) legible
  refine ⟨fun id b found => ⟨?_, fun straight => ?_, fun sql => Store.render_eq_ok fine,
      Store.render_eq_render fine found⟩,
    fun x o c accepted legible i j => refers_step accepted legible i j,
    fun on o method args named c bound made => ?_⟩
  · exact Store.render_eq_unbounded fine scope.store (List.getElem?_eq_some_iff.mp found).1
  · have inside := (List.getElem?_eq_some_iff.mp found).1
    exact Store.render_of_not_circular fine (fun j => scope.store.reaches inside) straight
  · have found := List.getElem?_eq_getElem (Store.builder_mem_references.mp (scope.lookup bound))
    exact ⟨fun args' named' c' id sql made' embeds ok unshown =>
        step_unshown bound found made made' embeds unshown ok,
      fun F args' named' made' => step_rekept F bound found made made'⟩

/-- The first statement is the table of the second one. -/
def keeping : List Step :=
  [.new "b" (.fields [("validate_pagination", .bool false)]), .call "b" "select" [.text "id"] [],
    .new "q" (.fields []), .call "q" "select" [.text "n"] [],
    .call "q" "from_" [.reference (.builder 0)] []]

/-- The second statement is the bound of a page of the first one. -/
def closing : Step := .call "b" "limit" [.reference (.builder 1)] []

theorem expansion_run_keeping :
    (initial.run keeping).store.Expands 1 "SELECT n FROM SELECT id" ∧
      (initial.run (keeping ++ [closing])).store.Circular 1 ∧
      ((initial.run (keeping ++ [closing])).step
        (.call "q" "union" [.reference (.builder 0)] [])).2.outcome = .error .unboundedText := by
  have name (t : String) : (Call.select [.text t]).Legible := by
    simp [Call.Legible, Value.NamesPiece, Value.sequence?]
  have legible : ∀ x ∈ keeping ++ [closing], x.Legible := by
    simp only [keeping, closing, List.cons_append, List.nil_append, List.forall_mem_cons]
    refine ⟨trivial, ?_, trivial, ?_, ?_, ?_, List.forall_mem_nil _⟩
    · exact Step.legible_of_made rfl (name "id") fun _ => name "id"
    · exact Step.legible_of_made rfl (name "n") fun _ => name "n"
    · exact Step.legible_of_made (c := .source (.reference (.builder 0)) .null) rfl
        ⟨trivial, trivial⟩ fun same => absurd same (by decide)
    · exact Step.legible_of_made (c := .paginate (.reference (.builder 1)) .null) rfl
        ⟨trivial, trivial⟩ fun same => absurd same (by decide)
  have before : (initial.run keeping).LegiblyReached := by
    refine ⟨keeping, ?_, fun x hx => legible x (List.mem_append_left _ hx), rfl⟩
    simp only [Knows, keeping, Step.references, ConfigSource.references, namedReferences]
    decide +kernel
  have after : (initial.run (keeping ++ [closing])).LegiblyReached := by
    refine ⟨keeping ++ [closing], ?_, legible, rfl⟩
    simp only [Knows, keeping, closing, List.cons_append, List.nil_append, Step.references,
      ConfigSource.references, namedReferences]
    decide +kernel
  have unshown : (initial.run (keeping ++ [closing])).store.render 0 = .error .unboundedText := by
    decide +kernel
  obtain ⟨texts, -⟩ := expansion_run before
  obtain ⟨texts', -, calls⟩ := expansion_run after
  obtain ⟨-, -, expands, -⟩ := texts 1 _ rfl
  obtain ⟨circular, -⟩ := texts' 1 _ rfl
  refine ⟨(expands _).mp (by decide +kernel), circular.mp (by decide +kernel), ?_⟩
  exact ((calls "q" 1 "union" [.reference (.builder 0)] [] _ rfl rfl).1 [.text "SELECT id"] [] _ 0
    "SELECT id" rfl (.union false) rfl unshown).2

/-- A condition need not begin with a text; then a statement that keeps itself is refused for that.
And a call may be refused for something else before the text of a statement is asked for. -/
def circling : List Step :=
  [.new "b" (.fields [("validate_pagination", .bool false)]), .call "b" "select" [.text "id"] [],
    .call "b" "where" [.int 5] [], .call "b" "limit" [.reference (.builder 0)] [],
    .new "c" (.fields [("validate_pagination", .bool false)]), .call "c" "select" [.text "id"] [],
    .call "c" "limit" [.reference (.builder 1)] []]

theorem expansion_run_circling :
    (initial.run circling).store.Circular 0 ∧
      (initial.run circling).store.render 0 = .error .wrongType ∧
      (initial.run circling).store.render 1 = .error .unboundedText ∧
      ((initial.run circling).step
        (.call "b" "from_subquery" [.reference (.builder 1), .text ""] [])).2.outcome =
          .error (.misuse .aliasMissing) := by
  refine ⟨⟨0, .refl, .single ⟨_, rfl, ?_⟩⟩, by decide +kernel, by decide +kernel, rfl⟩
  decide +kernel

end Session

end SelectBuilder
