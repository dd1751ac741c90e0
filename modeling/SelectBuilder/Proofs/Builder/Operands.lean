import SelectBuilder.Proofs.Builder.Agreement
import SelectBuilder.Builder.Method

/-!
# Operands of methods

The call that a method makes of its operands refers to nothing that these do not refer to. What else
there is in it, such as a default or an operator, refers to nothing.
-/
namespace SelectBuilder

/-- The default of a parameter, if it has one, refers to nothing. -/
def Parameter.Plain (p : Parameter) : Prop := ∀ d ∈ p.default?, d.references = []

theorem Parameter.required_plain (name : String) : (required name).Plain := nofun

theorem Parameter.optional_plain {name : String} {d : Value} (h : d.references = []) :
    (optional name d).Plain := by
  simpa [Plain, optional] using h

namespace Signature

/-- The calls of a signature refer to what they are made of at most. -/
inductive Faithful : Signature → Prop
  | many {make : List Value → Call}
      (made : ∀ vs, (make vs).references ⊆ vs.flatMap Value.references) : Faithful (.many make)
  | fixed {parameters : List Parameter} {make : List Value → Option Call}
      (plain : ∀ p ∈ parameters, p.Plain)
      (made : ∀ vs, ∀ c ∈ make vs, c.references ⊆ vs.flatMap Value.references) :
      Faithful (.fixed parameters make)

theorem nullary_faithful {c : Call} (h : c.references = []) : (nullary c).Faithful := by
  refine .fixed nofun fun vs c' made => ?_
  split at made <;> cases made
  simp [h]

theorem unary_faithful {p : Parameter} {call : Value → Call} (plain : p.Plain)
    (h : ∀ a, (call a).references ⊆ a.references) : (unary p call).Faithful := by
  refine .fixed (by simpa using plain) fun vs c made => ?_
  split at made <;> cases made
  simpa using h _

theorem binary_faithful {p q : Parameter} {call : Value → Value → Call} (first : p.Plain)
    (second : q.Plain) (h : ∀ a b, (call a b).references ⊆ a.references ++ b.references) :
    (binary p q call).Faithful := by
  refine .fixed (by simpa using ⟨first, second⟩) fun vs c made => ?_
  split at made <;> cases made
  simpa using h _ _

theorem comparison_faithful (operator : String) : (comparison operator).Faithful :=
  unary_faithful nofun fun a => by simp [Call.references, Call.operands, Value.references]

theorem join_faithful : join.Faithful := by
  refine .fixed ?_ fun vs c made => ?_
  · have subquery : (Parameter.optional "subquery" (.bool false)).Plain :=
      Parameter.optional_plain rfl
    simp [Parameter.required_plain, subquery]
  · split at made <;> cases made
    exact List.Subset.refl _

theorem joinOf_faithful (t : JoinType) (subquery : Bool) : (joinOf t subquery).Faithful :=
  binary_faithful nofun nofun fun a b => by simp [Call.references, Call.operands, Value.references]

/-- Every method is made by one of the signatures above. -/
theorem methods_faithful : ∀ m ∈ methods, m.2.Faithful := by
  simp only [methods, List.forall_mem_cons]
  and_intros
  all_goals first
    | exact .many fun vs => List.Subset.refl _
    | exact comparison_faithful _
    | exact joinOf_faithful _ _
    | exact join_faithful
    | exact nullary_faithful rfl
    | exact unary_faithful (Parameter.required_plain _) fun a => by
        simp [Call.references, Call.operands, Value.references]
    | exact binary_faithful (Parameter.required_plain _) (Parameter.required_plain _) fun a b => by
        simp [Call.references, Call.operands]
    | exact binary_faithful (Parameter.required_plain _) (Parameter.optional_plain rfl)
        fun a b => by simp [Call.references, Call.operands]
    | exact List.forall_mem_nil _

/-- The values bound to parameters were given or are defaults. -/
theorem references_bind {parameters : List Parameter} {args vs : List Value}
    {named : List (String × Value)} (plain : ∀ p ∈ parameters, p.Plain)
    (bound : bind parameters args named = some vs) :
    vs.flatMap Value.references ⊆
      args.flatMap Value.references ++ named.flatMap fun n => n.2.references := by
  unfold bind at bound
  dsimp only at bound
  split at bound
  · obtain ⟨rest, filled, rfl⟩ := Option.map_eq_some_iff.mp bound
    rw [List.flatMap_append]
    refine List.append_subset.mpr ⟨List.subset_append_left .., ?_⟩
    refine List.subset_append_of_subset_right _ fun x hx => ?_
    obtain ⟨v, hv, hx⟩ := List.mem_flatMap.mp hx
    obtain ⟨p, unfilled, value⟩ := exists_of_mem_mapM filled hv
    rcases Option.or_eq_some_iff.mp value with named' | ⟨-, default⟩
    · obtain ⟨before, after, split, -⟩ := List.lookup_eq_some_iff.mp named'
      exact List.mem_flatMap.mpr ⟨(p.name, v), by simp [split], hx⟩
    · rw [plain p (List.mem_of_mem_drop unfilled) v default] at hx
      cases hx
  · cases bound

end Signature

/-- A call refers to nothing that the operands it was made of do not refer to. -/
theorem Call.references_ofMethod {method : String} {args : List Value}
    {named : List (String × Value)} {c : Call} (h : Call.ofMethod method args named = .ok c) :
    c.references ⊆ args.flatMap Value.references ++ named.flatMap fun n => n.2.references := by
  unfold ofMethod at h
  split at h
  · next signature found =>
    obtain ⟨before, after, split, -⟩ := List.lookup_eq_some_iff.mp found
    have faithful := Signature.methods_faithful (method, signature) (by simp [split])
    cases faithful with
    | many made =>
      unfold Signature.call at h
      dsimp only at h
      split at h <;> cases h
      exact List.subset_append_of_subset_left _ (made args)
    | fixed plain made =>
      unfold Signature.call at h
      dsimp only at h
      split at h
      · next c' bound =>
        cases h
        obtain ⟨vs, bound, making⟩ := Option.bind_eq_some_iff.mp bound
        exact List.Subset.trans (made vs c making) (Signature.references_bind plain bound)
      · cases h
  · cases h

end SelectBuilder
