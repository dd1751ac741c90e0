import Mathlib.Computability.Language
import Mathlib.Order.CompletePartialOrder
import SelectBuilder.Builder.Basic

/-!
# Words of operators

Operators that extend a condition are predicates, which complete the last column, or connectives,
which begin a further one. The kinds of the operators of a condition make up a word. The main
statement is that the words which lead a condition from stage to stage are those of one regular
language.
-/
namespace SelectBuilder

open Computability

inductive OperatorKind where
  | predicate | connective
  deriving DecidableEq

namespace OperatorKind

/-- The stage in which an operator leaves a condition. -/
def stage : OperatorKind → Stage
  | predicate => .complete
  | connective => .pending

/-- A connective is for complete conditions only, a predicate for any condition. -/
def Suits (kind : OperatorKind) (stage : Stage) : Prop :=
  stage = .complete ∨ kind = predicate ∧ stage = .pending

instance (kind : OperatorKind) (stage : Stage) : Decidable (kind.Suits stage) :=
  inferInstanceAs (Decidable (_ ∨ _))

def advance (stage : Stage) (kind : OperatorKind) : Option Stage :=
  if kind.Suits stage then some kind.stage else none

/-- The stage after a word of operators on a new condition, if these follow one another. -/
def stageAfter (w : List OperatorKind) : Option Stage := w.foldlM advance .pending

theorem stageAfter_nil : stageAfter [] = some .pending := rfl

theorem stageAfter_concat (w : List OperatorKind) (kind : OperatorKind) :
    stageAfter (w ++ [kind]) = (stageAfter w).bind fun stage => advance stage kind := by
  simp [stageAfter, List.foldlM_append]

theorem stageAfter_concat_eq_some {w : List OperatorKind} {kind : OperatorKind} {stage : Stage} :
    stageAfter (w ++ [kind]) = some stage ↔
      ∃ before, stageAfter w = some before ∧ kind.Suits before ∧ kind.stage = stage := by
  simp [stageAfter_concat, Option.bind_eq_some_iff, advance]

/-- After a word a condition is in one of two stages, and the last operator tells which. -/
theorem stageAfter_eq_some {w : List OperatorKind} {stage : Stage}
    (h : stageAfter w = some stage) :
    (stage = .pending ∨ stage = .complete) ∧
      (stage = .pending ↔ w = [] ∨ w.getLast? = some connective) := by
  rcases List.eq_nil_or_concat w with rfl | ⟨front, kind, rfl⟩
  · cases h
    simp
  · rw [List.concat_eq_append] at h ⊢
    obtain ⟨before, -, -, rfl⟩ := stageAfter_concat_eq_some.mp h
    cases kind <;> simp [OperatorKind.stage]

end OperatorKind

namespace OperatorWords

open OperatorKind

def predicates : Language OperatorKind := {[predicate]} * {[predicate]}∗

def connectives : Language OperatorKind := {[connective]}

/-- The words after which no column waits for its operator. -/
def complete : Language OperatorKind := predicates * (connectives * predicates)∗

/-- No operator at all, or rows of predicates with single connectives between them, with or without
a connective at the end. -/
def all : Language OperatorKind := 1 + complete * (1 + connectives)

/-- The words that lead to a stage. -/
def reaching (stage : Stage) : Language OperatorKind := {w | stageAfter w = some stage}

theorem mul_singleton_le {l m : Language OperatorKind} {kind : OperatorKind}
    (h : ∀ w ∈ l, w ++ [kind] ∈ m) : l * {[kind]} ≤ m := by
  rintro w ⟨u, hu, v, rfl, rfl⟩
  exact h u hu

theorem predicate_mem_predicates : [predicate] ∈ predicates :=
  ⟨[predicate], rfl, [], Language.nil_mem_kstar _, rfl⟩

theorem predicates_mul_predicate_le : predicates * {[predicate]} ≤ predicates := by
  rw [predicates, mul_assoc]
  exact mul_le_mul_right kstar_mul_le_kstar _

/-- A predicate after a complete word belongs to its last row of predicates. -/
theorem complete_mul_predicate_le : complete * {[predicate]} ≤ complete := by
  have more : connectives * predicates * {[predicate]} ≤ connectives * predicates := by
    rw [mul_assoc]
    exact mul_le_mul_right predicates_mul_predicate_le _
  have rows : (connectives * predicates)∗ * {[predicate]} ≤
      {[predicate]} + (connectives * predicates)∗ := by
    calc (connectives * predicates)∗ * {[predicate]}
        = {[predicate]} +
            (connectives * predicates)∗ * (connectives * predicates * {[predicate]}) := by
          rw [← mul_assoc, ← one_add_mul, one_add_kstar_mul]
      _ ≤ {[predicate]} + (connectives * predicates)∗ := by
          refine add_le_add_right ?_ _
          exact (mul_le_mul_right more _).trans kstar_mul_le_kstar
  calc complete * {[predicate]}
      = predicates * ((connectives * predicates)∗ * {[predicate]}) := by rw [complete, mul_assoc]
    _ ≤ predicates * ({[predicate]} + (connectives * predicates)∗) := mul_le_mul_right rows _
    _ = predicates * {[predicate]} + complete := by rw [mul_add, complete]
    _ ≤ complete := by
        refine add_le (predicates_mul_predicate_le.trans ?_) le_rfl
        exact le_mul_of_one_le_right' one_le_kstar

theorem complete_mul_row_le : complete * (connectives * predicates) ≤ complete := by
  rw [complete, mul_assoc]
  exact mul_le_mul_right kstar_mul_le_kstar _

theorem complete_le_reaching : complete ≤ reaching .complete := by
  have again : reaching .complete * {[predicate]} ≤ reaching .complete :=
    mul_singleton_le fun w hw => stageAfter_concat_eq_some.mpr ⟨_, hw, .inl rfl, rfl⟩
  have rest : reaching .complete * {[predicate]}∗ ≤ reaching .complete := mul_kstar_le_self again
  have first : ({[predicate]} : Language OperatorKind) ≤ reaching .complete := by
    rintro w rfl
    rfl
  have row : reaching .complete * (connectives * predicates) ≤ reaching .complete := by
    have further : reaching .complete * connectives * {[predicate]} ≤ reaching .complete := by
      rintro w ⟨u, ⟨v, hv, c, rfl, rfl⟩, p, rfl, rfl⟩
      have pending : stageAfter (v ++ [connective]) = some .pending :=
        stageAfter_concat_eq_some.mpr ⟨_, hv, .inl rfl, rfl⟩
      exact stageAfter_concat_eq_some.mpr ⟨_, pending, .inr ⟨rfl, rfl⟩, rfl⟩
    rw [predicates, ← mul_assoc, ← mul_assoc]
    exact (mul_le_mul_left further _).trans rest
  exact mul_kstar_le ((mul_le_mul_left first _).trans rest) row

/-- What leads to a stage is a complete word, or one with a further connective, or nothing. -/
theorem mem_of_stageAfter {w : List OperatorKind} {stage : Stage}
    (h : stageAfter w = some stage) :
    stage = .complete ∧ w ∈ complete ∨
      stage = .pending ∧ (w = [] ∨ w ∈ complete * connectives) := by
  induction w using List.reverseRecOn generalizing stage with
  | nil =>
    cases h
    exact .inr ⟨rfl, .inl rfl⟩
  | append_singleton w kind ih =>
    obtain ⟨before, led, suits, rfl⟩ := stageAfter_concat_eq_some.mp h
    cases kind with
    | predicate =>
      refine .inl ⟨rfl, ?_⟩
      rcases ih led with ⟨-, inside⟩ | ⟨-, rfl | inside⟩
      · exact complete_mul_predicate_le ⟨w, inside, [predicate], rfl, rfl⟩
      · exact ⟨[predicate], predicate_mem_predicates, [], Language.nil_mem_kstar _, rfl⟩
      · obtain ⟨v, hv, c, hc, rfl⟩ := inside
        refine complete_mul_row_le ⟨v, hv, c ++ [predicate], ⟨c, hc, _, ?_, rfl⟩, ?_⟩
        · exact predicate_mem_predicates
        · simp
    | connective =>
      obtain rfl | ⟨other, -⟩ := suits
      · rcases ih led with ⟨-, inside⟩ | ⟨other, -⟩
        · exact .inr ⟨rfl, .inr ⟨w, inside, [connective], rfl, rfl⟩⟩
        · cases other
      · cases other

/-- The words of the language are those that operators can make up on a condition. -/
theorem mem_all {w : List OperatorKind} : w ∈ all ↔ ∃ stage, stageAfter w = some stage := by
  constructor
  · rintro (rfl | ⟨u, hu, v, rfl | rfl, rfl⟩)
    · exact ⟨_, stageAfter_nil⟩
    · have led : stageAfter (u ++ []) = some .complete := by
        rw [List.append_nil]
        exact complete_le_reaching hu
      exact ⟨.complete, led⟩
    · exact ⟨.pending, stageAfter_concat_eq_some.mpr ⟨_, complete_le_reaching hu, .inl rfl, rfl⟩⟩
  · rintro ⟨stage, h⟩
    rcases mem_of_stageAfter h with ⟨-, inside⟩ | ⟨-, rfl | ⟨u, hu, v, hv, rfl⟩⟩
    · exact .inr ⟨w, inside, [], .inl rfl, by simp⟩
    · exact .inl rfl
    · exact .inr ⟨u, hu, v, .inr hv, rfl⟩

/-- Within the language a word goes on with what suits the stage that it leads to. -/
theorem concat_mem_all {w : List OperatorKind} {kind : OperatorKind} {stage : Stage}
    (h : stageAfter w = some stage) : w ++ [kind] ∈ all ↔ kind.Suits stage := by
  simp [mem_all, stageAfter_concat_eq_some, h]

end OperatorWords

end SelectBuilder
