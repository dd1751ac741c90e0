import SelectBuilder.Proofs.Builder.Spelling
import SelectBuilder.Proofs.Session.Atomicity
import SelectBuilder.Proofs.Store.Rendering

/-!
# Spellings in a session

An operator on a condition adds one part to it, in which its operands are spelled by the place that
they take. How the same operand is spelled in other operators is told from its kind.
-/
namespace SelectBuilder

open Outcome

namespace Session

variable {s : Session} {x : Step} {id : Nat} {b : Builder} {c : Call}

/-- A step adds a part to the condition under the cursor of a builder, which is complete then, or it
fails and changes nothing. -/
inductive Contributes (s : Session) (id : Nat) (x : Step) : Outcome String → Prop
  | added {part : String} {b : Builder} {place : Nat}
      (found : s.store.builders[id]? = some b) (cursor : b.cursor = some place)
      (answered : (s.step x).2.outcome = .ok .done)
      (extended : (s.step x).1.store = s.store.setBuilder id
        { b with clauses := b.clauses.modify place (Clause.extend part), stage := .complete }) :
      Contributes s id x (.ok part)
  | refused {e : Failure} (answered : (s.step x).2.outcome = .error e)
      (same : (s.step x).1 = s) : Contributes s id x (.error e)

theorem Contributes.refuse {e : Failure} (asked : s.request? x = some (id, c))
    (found : s.store.builders[id]? = some b)
    (planned : b.plan (s.store.contextOf b) c = .error e) : s.Contributes id x (.error e) :=
  have stopped := step_refused asked (Store.call_eq_error found planned)
  .refused stopped.2 stopped.1

/-- What a call contributes that is planned as an operator. -/
theorem contributes {m : Outcome String} (op : String) (asked : s.request? x = some (id, c))
    (found : s.store.builders[id]? = some b) (current : b.current?.isSome)
    (planned : b.plan (s.store.contextOf b) c =
      m.map fun part => .extend op part .complete) : s.Contributes id x m := by
  cases m with
  | error e => exact .refuse asked found planned
  | ok part =>
    obtain ⟨clause, under⟩ := Option.isSome_iff_exists.mp current
    obtain ⟨place, cursor, -⟩ := Option.bind_eq_some_iff.mp under
    have called := Store.call_eq_ok.mpr ⟨b, _, found, planned, rfl, rfl⟩
    obtain ⟨store, -, answered⟩ := step_called asked called
    refine .added found cursor answered ?_
    rw [store]
    simp [Builder.apply, Builder.enter, Builder.settle, Builder.extend, cursor]

theorem contributes_compare {op : String} {v : Value} (found : s.store.builders[id]? = some b)
    (current : b.current?.isSome) (asked : s.request? x = some (id, .compare (.text op) v))
    (known : op ∈ comparisonOperators) :
    s.Contributes id x ((v.comparedText s.store.resolver).map fun t => op ++ " " ++ t) := by
  refine contributes op asked found current ?_
  show b.planCompare s.store.resolver (.text op) v = _
  rw [Builder.planCompare_eq current known]
  cases v.comparedText s.store.resolver <;> rfl

theorem contributes_differ {op : String} {v : Value} (found : s.store.builders[id]? = some b)
    (current : b.current?.isSome) (asked : s.request? x = some (id, .differ v (.text op)))
    (known : op ∈ inequalityOperators) :
    s.Contributes id x ((v.comparedText s.store.resolver).map fun t => op ++ " " ++ t) := by
  refine contributes op asked found current ?_
  show b.planDiffer s.store.resolver v (.text op) = _
  rw [Builder.planDiffer_eq current known]
  cases v.comparedText s.store.resolver <;> rfl

theorem contributes_between {negated : Bool} {low high : Value}
    (found : s.store.builders[id]? = some b) (current : b.current?.isSome)
    (asked : s.request? x = some (id, .between negated low high)) :
    s.Contributes id x do
      let l ← low.boundText s.store.resolver
      let h ← high.boundText s.store.resolver
      return Builder.negatable negated "BETWEEN" ++ " " ++ l ++ " AND " ++ h := by
  refine contributes (Builder.negatable negated "BETWEEN") asked found current ?_
  show b.planBetween s.store.resolver negated low high = _
  rw [Builder.planBetween_eq current]
  cases low.boundText s.store.resolver with
  | error e => rfl
  | ok l => cases high.boundText s.store.resolver <;> rfl

/-- A list contributes its items with commas between them, unless nothing comes of that. -/
theorem contributes_within {negated : Bool} {v : Value} {vs : List Value} {ts : List String}
    (found : s.store.builders[id]? = some b) (current : b.current?.isSome)
    (asked : s.request? x = some (id, .within negated v)) (sequence : v.sequence? = some vs)
    (texts : vs.mapM (Value.listedText s.store.resolver) = .ok ts) :
    s.Contributes id x
      (if ts = [] ∨ ts = [""] then misuse (.listEmpty (Builder.negatable negated "IN"))
        else .ok (Builder.negatable negated "IN" ++ " (" ++ String.intercalate ", " ts ++ ")")) := by
  refine contributes (Builder.negatable negated "IN") asked found current ?_
  show b.planWithin s.store.resolver negated v = _
  rw [Builder.planWithin_eq current negated sequence texts]
  split <;> rfl

/-- How operands are spelled by the operators on a condition. Each operator adds one part to it with
the operands in their places, or it fails with one of them. A comparison and a range show the same
text of nothing, a truth value, a number or a literal if and only if SQL has no keyword for it, and
a list shows what a range shows. Nothing and the truth values are keywords in a comparison only.
Between quotes in a comparison there is the text that a list shows of a string. -/
theorem spelling_step (found : s.store.builders[id]? = some b) (current : b.current?.isSome) :
    let r := s.store.resolver
    (∀ x op v, s.request? x = some (id, .compare (.text op) v) → op ∈ comparisonOperators →
        s.Contributes id x ((v.comparedText r).map fun t => op ++ " " ++ t)) ∧
      (∀ x op v, s.request? x = some (id, .differ v (.text op)) → op ∈ inequalityOperators →
        s.Contributes id x ((v.comparedText r).map fun t => op ++ " " ++ t)) ∧
      (∀ x negated low high, s.request? x = some (id, .between negated low high) →
        s.Contributes id x do
          let l ← low.boundText r
          let h ← high.boundText r
          return Builder.negatable negated "BETWEEN" ++ " " ++ l ++ " AND " ++ h) ∧
      (∀ x negated v vs, s.request? x = some (id, .within negated v) → v.sequence? = some vs →
        (∀ ts, vs.mapM (Value.listedText r) = .ok ts → ts ≠ [] → ts ≠ [""] →
          s.Contributes id x
            (.ok (Builder.negatable negated "IN" ++ " (" ++ String.intercalate ", " ts ++ ")"))) ∧
          ∀ e, vs.mapM (Value.listedText r) = .error e → ∃ e', s.Contributes id x (.error e')) ∧
      (∀ v : Value, v.IsPlain →
        (v.boundText r = v.comparedText r ↔ ¬ v.IsKeyword) ∧
          ((∀ w, v = .raw w → w.IsString) → v.listedText r = v.boundText r)) ∧
      (Value.null.comparedText r = .ok "NULL" ∧ Value.null.boundText r = .ok "None" ∧
        ∀ t, (Value.bool t).comparedText r = .ok (if t then "TRUE" else "FALSE") ∧
          (Value.bool t).boundText r = .ok (if t then "True" else "False")) ∧
      ∀ t, (Value.text t).listedText r = .ok t ∧
        (Value.text t).comparedText r = .ok ("'" ++ t ++ "'") := by
  refine ⟨fun x op v => contributes_compare found current,
    fun x op v => contributes_differ found current,
    fun x negated low high => contributes_between found current, ?_,
    fun v plain => ⟨Value.boundText_eq_comparedText_iff plain, Value.listedText_eq_boundText⟩,
    ⟨rfl, rfl, fun t => ⟨rfl, rfl⟩⟩, fun t => ⟨rfl, rfl⟩⟩
  intro x negated v vs asked sequence
  constructor
  · intro ts texts some filled
    have listed := contributes_within found current asked sequence texts
    rwa [if_neg (not_or.mpr ⟨some, filled⟩)] at listed
  · intro e textless
    obtain ⟨e', planned⟩ := Builder.planWithin_isError (b := b) negated sequence textless
    exact ⟨e', .refuse asked found planned⟩

theorem spelling_step_number :
    waiting.Contributes 0 (.call "q" "equals_to" [.number (.text "2")] []) (.ok "= 2") ∧
      waiting.Contributes 0 (.call "q" "not_between" [.int 1, .number (.text "2")] [])
        (.ok "NOT BETWEEN 1 AND 2") := by
  obtain ⟨compare, -, between, -⟩ := @spelling_step waiting 0 _ rfl rfl
  constructor
  · exact compare (.call "q" "equals_to" [.number (.text "2")] []) "=" (.number (.text "2")) rfl
      (by decide)
  · exact between (.call "q" "not_between" [.int 1, .number (.text "2")] []) true (.int 1)
      (.number (.text "2")) rfl

/-- Nothing is NULL in a comparison and None in a list. -/
theorem null_in_list :
    (waiting.step (.call "q" "equals_to" [.null] [])).1.store.render 0 =
        .ok "SELECT id WHERE a = NULL" ∧
      (waiting.step (.call "q" "in_" [.list [.null]] [])).1.store.render 0 =
        .ok "SELECT id WHERE a IN (None)" := by
  constructor
  · rw [Store.render_eq rfl]
    rfl
  · rw [Store.render_eq rfl]
    rfl

end Session

end SelectBuilder
