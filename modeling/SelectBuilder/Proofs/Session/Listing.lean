import SelectBuilder.Proofs.Builder.Listing
import SelectBuilder.Proofs.Session.Spelling

/-!
# Lists in a session

Whether a list of IN is taken is told from its items: only the list of nothing and the list of one
empty string are refused. The lists of the clauses are refused for an empty entry wherever it stands.
-/
namespace SelectBuilder

namespace Session

variable {s : Session}

/-- Putting the texts of items together comes to nothing for no item and for one that is empty. -/
theorem listedTexts_blank_iff {r : Resolver} {vs : List Value} {ts : List String}
    (each : List.Forall₂ (fun v t => v.listedText r = .ok t ∧ (t = "" ↔ v.IsEmptyItem)) vs ts) :
    ts = [] ∨ ts = [""] ↔ vs = [] ∨ ∃ v, vs = [v] ∧ v.IsEmptyItem := by
  match each with
  | .nil => simp
  | .cons first .nil => simp [first.2]
  | .cons _ (.cons _ _) => simp

/-- A list of items contributes their texts in order, one for each item and empty for the empty
ones, unless there is no item or the only one is empty: then it is refused as an empty list. An empty
item among others is taken and leaves a hole between the commas. The lists of the clauses take no
empty entry, whatever stands beside it. -/
theorem listing_step :
    (∀ id b x negated v vs, s.store.builders[id]? = some b → b.current?.isSome →
        s.request? x = some (id, .within negated v) → v.sequence? = some vs →
        (∀ v ∈ vs, v.IsItem) →
        ∃ ts, vs.mapM (Value.listedText s.store.resolver) = .ok ts ∧
          List.Forall₂ (fun v t =>
            v.listedText s.store.resolver = .ok t ∧ (t = "" ↔ v.IsEmptyItem)) vs ts ∧
          ((vs = [] ∨ ∃ v, vs = [v] ∧ v.IsEmptyItem) →
            s.Contributes id x (misuse (.listEmpty (Builder.negatable negated "IN")))) ∧
          (¬(vs = [] ∨ ∃ v, vs = [v] ∧ v.IsEmptyItem) →
            s.Contributes id x
              (.ok (Builder.negatable negated "IN" ++ " (" ++ String.intercalate ", " ts ++ ")")))) ∧
      ∀ id b x c items v, s.store.builders[id]? = some b → s.request? x = some (id, c) →
        c.entries? = some items → v ∈ items → v.IsEmptyEntry →
        ∃ e, s.Contributes id x (.error e) := by
  constructor
  · intro id b x negated v vs found current asked sequence items
    obtain ⟨ts, texts, each⟩ := Value.exists_listedTexts items s.store.resolver
    have listed := contributes_within found current asked sequence texts
    refine ⟨ts, texts, each, ?_, ?_⟩
    · intro blank
      rwa [if_pos ((listedTexts_blank_iff each).mpr blank)] at listed
    · intro filled
      rwa [if_neg (mt (listedTexts_blank_iff each).mp filled)] at listed
  · intro id b x c items v found asked entries inside empty
    obtain ⟨e, planned⟩ : ∃ e, b.plan (s.store.contextOf b) c = .error e :=
      Builder.plan_entries entries inside empty
    exact ⟨e, .refuse asked found planned⟩

theorem listing_step_mixed :
    waiting.Contributes 0 (.call "q" "in_" [.list [.int 1, .text "a", .null]] [])
        (.ok "IN (1, a, None)") ∧
      ∃ e, waiting.Contributes 0 (.call "q" "order_by" [.text "id", .text ""] []) (.error e) := by
  obtain ⟨listed, refused⟩ := @listing_step waiting
  constructor
  · obtain ⟨ts, texts, -, -, taken⟩ :=
      listed 0 _ (.call "q" "in_" [.list [.int 1, .text "a", .null]] []) false
        (.list [.int 1, .text "a", .null]) [.int 1, .text "a", .null] rfl rfl rfl rfl
        (by simp [Value.IsItem, Value.IsNumber, Value.IsWhole])
    have same : ["1", "a", "None"] = ts := Except.ok.inj texts
    subst same
    exact taken (by simp)
  · exact refused 0 _ (.call "q" "order_by" [.text "id", .text ""] [])
      (.orderBy [.text "id", .text ""]) [.text "id", .text ""] (.text "") rfl rfl rfl (by simp) .text

/-- An empty string is refused as the only item and taken after another one. -/
theorem hole_in_list :
    (waiting.step (.call "q" "in_" [.list [.text ""]] [])).2.outcome =
        .error (.misuse (.listEmpty "IN")) ∧
      (waiting.step (.call "q" "in_" [.list [.text "a", .text ""]] [])).2.outcome = .ok .done ∧
      (waiting.step (.call "q" "in_" [.list [.text "a", .text ""]] [])).1.store.render 0 =
        .ok "SELECT id WHERE a IN (a, )" := by
  refine ⟨rfl, rfl, ?_⟩
  rw [Store.render_eq rfl]
  rfl

end Session

end SelectBuilder
