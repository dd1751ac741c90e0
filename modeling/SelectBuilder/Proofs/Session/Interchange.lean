import SelectBuilder.Proofs.Session.Entries
import SelectBuilder.Proofs.Store.Interchange

/-!
# Interchangeable operands in a session

Whichever of the ways to write down a column or an ordering is taken, at whatever place of a list,
the step is answered alike and leaves a session that shows the same.
-/
namespace SelectBuilder

namespace Session

variable {s : Session} {x y : Step}

/-- Two steps with the same answer, after which all objects have the same names, all clauses the
same texts, and all conditions stand at the same stage. -/
structure Interchangeable (s : Session) (x y : Step) : Prop where
  outcome : (s.step x).2.outcome = (s.step y).2.outcome
  view : (s.step x).2.view = (s.step y).2.view
  names : (s.step x).1.names = (s.step y).1.names
  clauses : (s.step x).1.store.clauseTexts = (s.step y).1.store.clauseTexts
  statements : (s.step x).1.store.render = (s.step y).1.store.render
  stages : (s.step x).1.store.builders.map Builder.stage =
    (s.step y).1.store.builders.map Builder.stage

theorem view_interchangeable {t : Session} (names : s.names = t.names)
    (stores : s.store.Interchangeable t.store) (subject : Option String) :
    s.view subject = t.view subject := by
  unfold view
  rw [names]
  cases subject.bind fun name => t.names.lookup name with
  | none => rfl
  | some handle =>
    cases handle with
    | builder id =>
      simp only
      rcases forall₂_getElem? stores.builders id with ⟨none, none'⟩ | ⟨b, d, found, found', like⟩
      · rw [none, none', Option.map_none, Option.map_none]
      · rw [found, found', Option.map_some, Option.map_some, stores.render, like.stage,
          like.clauses.length_eq]
    | config id => rfl
    | factory id => rfl

theorem Interchangeable.of_stores (subject : Step.subject? x = Step.subject? y)
    (outcome : (s.step x).2.outcome = (s.step y).2.outcome)
    (names : (s.step x).1.names = (s.step y).1.names)
    (stores : (s.step x).1.store.Interchangeable (s.step y).1.store) :
    s.Interchangeable x y where
  outcome := outcome
  view := by rw [view_step, view_step, subject, view_interchangeable names stores]
  names := names
  clauses := stores.clauseTexts
  statements := stores.render
  stages := stores.stages

/-- A builder that takes one of two clauses which are written alike. -/
theorem interchangeable_select (b : Builder) (strict : Bool) {cs ds : List Column}
    (alike : ∀ r, (Clause.select cs).render r = (Clause.select ds).render r) :
    (b.apply strict (.append (.select cs))).Interchangeable
      (b.apply strict (.append (.select ds))) where
  config := rfl
  stage := rfl
  clauses := List.rel_append (List.forall₂_same.mpr fun c _ => .refl c)
    (.cons ⟨rfl, rfl, alike⟩ .nil)

variable {on : String} {id : Nat} {vs ws : List Value}

theorem step_select_same (bound : s.names.lookup on = some (.builder id))
    (same : List.Forall₂ Value.SameColumn vs ws) :
    s.Interchangeable (.call on "select" vs []) (.call on "select" ws []) := by
  have asked : s.request? (.call on "select" vs []) = some (id, .select vs) :=
    request?_call_eq_some.mpr ⟨bound, rfl⟩
  have asked' : s.request? (.call on "select" ws []) = some (id, .select ws) :=
    request?_call_eq_some.mpr ⟨bound, rfl⟩
  have refused : ∀ e, s.store.call id (.select vs) = .error e →
      s.store.call id (.select ws) = .error e →
      s.Interchangeable (.call on "select" vs []) (.call on "select" ws []) := by
    intro e called called'
    obtain ⟨left, answer⟩ := step_refused asked called
    obtain ⟨left', answer'⟩ := step_refused asked' called'
    refine .of_stores rfl (answer.trans answer'.symm) ?_ ?_
    · rw [left, left']
    · rw [left, left']
      exact .refl s.store
  cases found : s.store.builders[id]? with
  | none =>
    have missing : ∀ c, s.store.call id c = .error .unknownObject := fun c => by
      simp only [Store.call, Store.builder, found, Outcome.error_bind]
    exact refused .unknownObject (missing _) (missing _)
  | some b =>
    rcases Builder.planSelect_same same b with
      ⟨e, planned, planned'⟩ | ⟨cs, ds, planned, planned', alike⟩
    · exact refused e (Store.call_eq_error found planned) (Store.call_eq_error found planned')
    · obtain ⟨store, names, answer⟩ :=
        step_called asked (Store.call_eq_ok.mpr ⟨b, _, found, planned, rfl, rfl⟩)
      obtain ⟨store', names', answer'⟩ :=
        step_called asked' (Store.call_eq_ok.mpr ⟨b, _, found, planned', rfl, rfl⟩)
      refine .of_stores rfl (answer.trans answer'.symm) (names.trans names'.symm) ?_
      rw [store, store']
      exact .setBuilder _ id (interchangeable_select b _ alike)

/-- However the items of a list are written down, each in a way of its own, a selection is answered
alike and the session shows the same afterwards, whether the items are accepted or not. With the
items of an ordering not even the clause that is kept differs, so that it is the same step. -/
theorem interchange_step (bound : s.names.lookup on = some (.builder id)) :
    (List.Forall₂ Value.SameColumn vs ws →
      s.Interchangeable (.call on "select" vs []) (.call on "select" ws [])) ∧
    (List.Forall₂ Value.SameOrdering vs ws →
      s.step (.call on "order_by" vs []) = s.step (.call on "order_by" ws [])) :=
  ⟨step_select_same bound, fun same =>
    step_congr bound rfl rfl fun _ => Builder.planOrderBy_same same s.store.resolver⟩

theorem interchange_step_mixed :
    unfilled.Interchangeable
      (.call "b" "select" [.tuple [.text "a", .text ""], .list [.text "b", .text "c"]] [])
      (.call "b" "select" [.column (.text "a") (.text ""), .column (.text "b") (.text "c")] []) ∧
    unfilled.Interchangeable (.call "b" "select" [.text "a", .text ""] [])
      (.call "b" "select" [.text "a", .tuple [.text "", .null]] []) ∧
    unfilled.step (.call "b" "order_by" [.list [.text "a", .text "deſc"]] []) =
      unfilled.step (.call "b" "order_by" [.order (.text "a") (.direction .descending)] []) := by
  have bound : unfilled.names.lookup "b" = some (.builder 0) := rfl
  refine ⟨(interchange_step bound).1 (.cons (.inr ?_) (.cons (.inr ?_) .nil)),
    (interchange_step bound).1 (.cons (.inl rfl) (.cons (.inr ?_) .nil)),
    (interchange_step bound).2 (.cons (.inr ?_) .nil)⟩
  · exact ⟨("a", none), .unaliased (.inr rfl) "a" rfl, .bareDescriptor "a" rfl⟩
  · exact ⟨("b", some "c"), .aliased (.inl rfl) "b" (by decide), .descriptor "b" (by decide)⟩
  · exact ⟨("", none), .name "", .unaliased (.inr rfl) "" rfl⟩
  · exact ⟨("a", some .descending), .directed (.inl rfl) "a" (by decide +kernel),
      .descriptor "a" .descending⟩

end Session

end SelectBuilder
