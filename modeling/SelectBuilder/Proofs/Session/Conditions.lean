import SelectBuilder.Proofs.Builder.Conditions
import SelectBuilder.Proofs.Lists
import SelectBuilder.Proofs.Session.Run
import SelectBuilder.Proofs.Store.Copying

/-!
# Operators of conditions over runs

A chronicle of a run says which operators have extended which clause of which builder. Copies take
over what it says of the builders that they are copies of. Whatever the steps of a run are, the
chronicle tells what operators its conditions take next.
-/
namespace SelectBuilder

namespace Store

theorem started_reads {b : Builder} (h : Started b) : b.Reads .none := by
  cases h with
  | fresh config => exact Builder.fresh_reads config
  | called strict planned => exact (Builder.fresh_reads _).apply strict planned

end Store

namespace Session

/-- The words of the builders that a step adds. A builder that is no copy has none. -/
def inherited (s : Session) (ws : List Words) : Step → List Words
  | .copy on _ =>
    match s.names.lookup on with
    | some (.builder id) => (s.store.copiedBuilders id).filterMap (ws[·]?)
    | _ => []
  | x => List.replicate ((s.step x).1.store.builders.length - s.store.builders.length) .none

/-- The words of all builders after a step. -/
def noted (s : Session) (ws : List Words) (x : Step) : List Words :=
  match s.accepted? x with
  | some (id, c) =>
    match s.store.builders[id]? with
    | some b => ws.modify id fun w => w.after b c
    | none => ws
  | none => ws ++ s.inherited ws x

/-- The words of all builders after a run. -/
def chronicle (s : Session) (ws : List Words) : List Step → List Words
  | [] => ws
  | x :: xs => (s.step x).1.chronicle (s.noted ws x) xs

theorem reads_step {s : Session} {ws : List Words}
    (h : List.Forall₂ Builder.Reads s.store.builders ws) (x : Step) :
    List.Forall₂ Builder.Reads (s.step x).1.store.builders (s.noted ws x) := by
  unfold noted
  cases accepted : s.accepted? x with
  | some p =>
    obtain ⟨b, change, found, planned, store⟩ := store_accepted accepted
    simp only [store, found]
    exact forall₂_set_modify h found fun w reads => reads.apply _ planned
  | none =>
    cases copy : x.isCopy with
    | false =>
      obtain ⟨added, grown, each⟩ := starts_of_accepted accepted copy
      have others : s.inherited ws x = List.replicate added.length .none := by
        cases x with
        | copy on name => cases copy
        | _ => simp [inherited, grown]
      rw [grown, others]
      exact List.rel_append h (forall₂_replicate fun b hb => Store.started_reads (each b hb))
    | true =>
      obtain ⟨on, name, rfl⟩ := Step.isCopy_iff.mp copy
      by_cases named : ∃ id, s.names.lookup on = some (.builder id)
      · obtain ⟨id, named⟩ := named
        simp only [(step_copy named).1, inherited, named]
        refine List.rel_append h (List.forall₂_map_left_iff.mpr ?_)
        exact (forall₂_lookup h _).imp fun b w reads => reads.relocate _
      · have same : (s.step (.copy on name)).1.store = s.store := by
          rcases s.step_cases (.copy on name) rfl with ⟨same, -⟩ | ⟨done, result, report, made, -⟩
          · exact same
          · obtain ⟨id, found, -⟩ := effect_copy made
            exact absurd ⟨id, found⟩ named
        have nothing : s.inherited ws (.copy on name) = [] := by
          unfold inherited
          split <;> simp_all
        simpa [same, nothing] using h

theorem reads_run {s : Session} {ws : List Words}
    (h : List.Forall₂ Builder.Reads s.store.builders ws) (xs : List Step) :
    List.Forall₂ Builder.Reads (s.run xs).store.builders (s.chronicle ws xs) := by
  induction xs generalizing s ws with
  | nil => exact h
  | cons x xs ih => exact ih (reads_step h x)

/-- A call of a method is answered as the builder plans it. -/
theorem step_request {s : Session} {on method : String} {args : List Value}
    {named : List (String × Value)} {id : Nat} {b : Builder} {c : Call}
    (found : s.names.lookup on = some (.builder id)) (inside : s.store.builders[id]? = some b)
    (made : Call.ofMethod method args named = .ok c) :
    (s.step (.call on method args named)).2.outcome =
      (b.plan (s.store.contextOf b) c).map fun _ => .done := by
  have asked := request?_call_eq_some.mpr ⟨found, made⟩
  cases planned : b.plan (s.store.contextOf b) c with
  | ok change =>
    exact (step_called asked (Store.call_eq_ok.mpr ⟨b, change, inside, planned, rfl, rfl⟩)).2.2
  | error e => exact (step_refused asked (Store.call_eq_error inside planned)).2

/-- After any run, whatever is assigned to the configurations in between, the operators that have
extended a condition make up a word of the language, with a part of the condition for each. While
the condition is under the cursor a column waits if there is no operator yet or the last one is a
connective, and the column is complete otherwise; an operator with valid operands succeeds if and
only if the word with it is still one of the language. Without a condition under the cursor every
operator is refused for want of one. -/
theorem operators_run (xs : List Step) {id : Nat} {b : Builder}
    (found : (initial.run xs).store.builders[id]? = some b) :
    ∃ w, (initial.chronicle [] xs)[id]? = some w ∧
      (∀ i kind head parts, b.clauses[i]? = some (.condition kind head parts) →
        w i ∈ OperatorWords.all ∧ parts.length = (w i).length) ∧
      (∀ i, b.cursor = some i →
        (b.stage = .pending ↔ w i = [] ∨ (w i).getLast? = some .connective) ∧
        (b.stage = .complete ↔ ¬(w i = [] ∨ (w i).getLast? = some .connective))) ∧
      ∀ on method args named c kind, (initial.run xs).names.lookup on = some (.builder id) →
        Call.ofMethod method args named = .ok c → c.operator? = some kind →
        (∀ i, b.cursor = some i → c.Valid (initial.run xs).store.resolver →
          (((initial.run xs).step (.call on method args named)).2.outcome.isOk ↔
            w i ++ [kind] ∈ OperatorWords.all)) ∧
        (b.cursor = none → c.sign.isText →
          ∃ cause, ((initial.run xs).step (.call on method args named)).2.outcome =
              .error (.misuse cause) ∧
            cause.kind = .coded .noPreviousWhere ∧
            cause.code?.map ErrorCode.number = some 1004) := by
  have start : List.Forall₂ Builder.Reads initial.store.builders [] := .nil
  rcases forall₂_getElem? (reads_run start xs) id with ⟨none, -⟩ | ⟨b', w, found', noted, reads⟩
  · rw [found] at none
    cases none
  obtain rfl : b = b' := Option.some.inj (found.symm.trans found')
  refine ⟨w, noted, fun i kind head parts inside => ⟨reads.legal i, reads.parts i _ inside⟩,
    fun i cursor => ?_, fun on method args named c kind bound made operator => ⟨?_, ?_⟩⟩
  · have waits := (OperatorKind.stageAfter_eq_some (reads.stage i cursor)).2
    rcases (reads.cursor cursor).2 with stage | stage <;> simp_all
  · intro i cursor valid
    have takes : (∃ change, b.plan ((initial.run xs).store.contextOf b) c = .ok change) ↔
        w i ++ [kind] ∈ OperatorWords.all := reads.takes cursor operator valid
    rw [step_request bound found made, ← takes]
    cases b.plan ((initial.run xs).store.contextOf b) c with
    | ok change => exact iff_of_true rfl ⟨change, rfl⟩
    | error e => exact iff_of_false nofun nofun
  · intro cursor string
    have none : b.current? = Option.none := by simp [Builder.current?, cursor]
    obtain ⟨word, text⟩ := Value.hasText_of_isText string
    refine ⟨.conditionMissing word, ?_, rfl, rfl⟩
    rw [step_request bound found made, Builder.plan_without_condition none operator text]
    rfl

/-- A condition that is extended under changing settings and then copied with its statement. -/
def connecting : List Step :=
  [.new "q" (.fields []), .call "q" "select" [.text "id"] [], .call "q" "where" [.text "a"] [],
    .assign "q" "strict_fragments" (.bool false), .call "q" "equals_to" [.int 1] [],
    .call "q" "limit" [.int 5] [], .call "q" "and_" [.text "b"] [], .copy "q" "c"]

theorem operators_run_connecting :
    ∃ w, (initial.chronicle [] connecting)[1]? = some w ∧ w 1 = [.predicate, .connective] ∧
      w 1 ∈ OperatorWords.all ∧ w 1 ++ [.predicate] ∈ OperatorWords.all := by
  obtain ⟨w, noted, legal, -, next⟩ := @operators_run connecting 1 _ rfl
  have word : w 1 = [.predicate, .connective] := by
    cases noted
    rfl
  refine ⟨w, noted, word, (legal 1 .rows (.text "a") ["= 1", "AND b"] rfl).1, ?_⟩
  exact ((next "c" "is_null" [] [] (.isNull false) .predicate rfl rfl rfl).1 1 rfl trivial).mp rfl

end Session

end SelectBuilder
