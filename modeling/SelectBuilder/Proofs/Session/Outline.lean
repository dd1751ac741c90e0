import SelectBuilder.Proofs.Builder.Announcing
import SelectBuilder.Proofs.Session.Accounting
import SelectBuilder.Proofs.Store.Copying

/-!
# Outlines of sessions

The outline of a session is what kind of object stands under each name, with the keywords of the
clauses if it is a statement. A step that goes through changes it at one name at most, and the new
entry is known from the outline and from the method that is called.
-/
namespace SelectBuilder

open Outcome

/-- An object, with no more of it than the keywords of its clauses. -/
inductive Outline where
  | statement (keywords : List String)
  | settings
  | factory

/-- An outline with a new entry, if there is one. -/
def redrawn (o : String → Option Outline) (entry : Option (String × Outline)) (name : String) :
    Option Outline :=
  match entry with
  | some (n, d) => if name = n then some d else o name
  | none => o name

/-- The entry of the outline that a step makes if it goes through. -/
def Step.draws (o : String → Option Outline) : Step → Option (String × Outline)
  | .new name _ => some (name, .statement [])
  | .config name _ => some (name, .settings)
  | .factory name _ _ => some (name, .factory)
  | .select name _ columns _ =>
    some (name, .statement (if columns.isEmpty then [] else ["SELECT"]))
  | .copy on name => (o on).map fun d => (name, d)
  | .call on method args named =>
    match o on, Call.ofMethod method args named with
    | some (.statement ks), .ok c => some (on, .statement (c.leaves ks))
    | _, _ => none
  | _ => none

namespace Store

variable {s t : Store} {id : Nat} {b : Builder}

def outline? (s : Store) : Handle → Option Outline
  | .builder id => s.builders[id]?.map fun b => .statement b.keywords
  | .config _ => some .settings
  | .factory _ => some .factory

theorem getElem?_of_grown (grown : s.builders <+: t.builders) (inside : id < s.builders.length) :
    t.builders[id]? = s.builders[id]? := by
  obtain ⟨added, grown⟩ := grown
  rw [← grown, List.getElem?_append_left inside]

/-- The builder itself is the first one that is copied. -/
theorem copiedBuilders_eq_cons (s : Store) (id : Nat) :
    ∃ others, s.copiedBuilders id = id :: others := by
  have first : ∀ n, ∃ others, s.within [.builder id] n = .builder id :: others := by
    intro n
    induction n with
    | zero => exact ⟨[], rfl⟩
    | succ n ih =>
      obtain ⟨others, near⟩ := ih
      simp only [within, near, List.cons_append, List.eraseDups_cons]
      exact ⟨_, rfl⟩
  obtain ⟨others, reached⟩ := first (s.builders.length + s.configs.length)
  exact ⟨others.filterMap Reference.builder?, by rw [copiedBuilders, Store.reached, reached]; rfl⟩

/-- A copy comes right behind the builders that were there, with the same keywords. -/
theorem copy_outline (found : s.builders[id]? = some b) :
    s.builders <+: (s.copy id).1.builders ∧ (s.copy id).2 = s.builders.length ∧
      (s.copy id).1.outline? (.builder (s.copy id).2) = some (.statement b.keywords) := by
  obtain ⟨others, copied⟩ := s.copiedBuilders_eq_cons id
  have newest : (s.copy id).2 = s.builders.length := by
    simp [copy_eq, builderPlace, copied, place, List.idxOf?_cons]
  refine ⟨⟨_, rfl⟩, newest, ?_⟩
  rw [newest, copy_eq, copied, outline?, List.filterMap_cons, found]
  simp

end Store

namespace Session

variable {s t done : Session} {x : Step} {result : Result} {report : Option Store.Report}
  {d : Option (String × Outline)} {name : String} {id : Nat} {b : Builder}

def outline (s : Session) (name : String) : Option Outline :=
  (s.names.lookup name).bind s.store.outline?

/-- Names of statements stand for statements that are there, different names for different ones. -/
structure Distinct (s : Session) : Prop where
  inside : ∀ name id, s.names.lookup name = some (.builder id) → id < s.store.builders.length
  apart : ∀ name name' id, s.names.lookup name = some (.builder id) →
    s.names.lookup name' = some (.builder id) → name = name'

/-- One session comes after another: the objects that have names are as they were, or one name
stands for a new object, or the statement under one name has changed. -/
inductive Draws (s t : Session) : Option (String × Outline) → Prop where
  | kept (names : t.names = s.names) (grown : s.store.builders <+: t.store.builders) :
    Draws s t none
  | bound {name : String} {handle : Handle} {d : Outline}
    (names : t.names = (name, handle) :: s.names) (grown : s.store.builders <+: t.store.builders)
    (fresh : ∀ id, handle = .builder id → s.store.builders.length ≤ id)
    (outline : t.store.outline? handle = some d) : Draws s t (some (name, d))
  | changed {name : String} {id : Nat} {b : Builder}
    (bound : s.names.lookup name = some (.builder id)) (names : t.names = s.names)
    (builders : t.store.builders = s.store.builders.set id b) :
    Draws s t (some (name, .statement b.keywords))

theorem Draws.of_same (names : t.names = s.names) (builders : t.store.builders = s.store.builders) :
    s.Draws t none := .kept names (by rw [builders])

theorem Distinct.outline?_of_grown (h : s.Distinct)
    (grown : s.store.builders <+: t.store.builders) :
    (s.names.lookup name).bind t.store.outline? = s.outline name := by
  rw [outline]
  cases bound : s.names.lookup name with
  | none => rfl
  | some handle =>
    cases handle with
    | builder id =>
      simp [Store.outline?, Store.getElem?_of_grown grown (h.inside name id bound)]
    | config id => rfl
    | factory config => rfl

theorem Draws.of_same_after {u : Session} (h : s.Draws t d) (same : t.Same u) : s.Draws u d := by
  obtain ⟨store, names'⟩ := same
  cases h with
  | kept names grown => exact .kept (names'.trans names) (store ▸ grown)
  | bound names grown fresh outline =>
    exact .bound (names'.trans names) (store ▸ grown) fresh (store ▸ outline)
  | changed bound names builders =>
    exact .changed bound (names'.trans names) (store ▸ builders)

theorem Draws.outline (h : s.Draws t d) (distinct : s.Distinct) :
    t.outline = redrawn s.outline d := by
  funext n
  cases h with
  | kept names grown =>
    rw [Session.outline, names]
    exact distinct.outline?_of_grown grown
  | @bound name handle d names grown fresh outline =>
    rw [Session.outline, names, lookup_cons_eq_ite, redrawn]
    split
    · exact outline
    · exact distinct.outline?_of_grown grown
  | @changed name id b bound names builders =>
    have inside := distinct.inside name id bound
    rw [Session.outline, names, redrawn]
    split
    · next same =>
      rw [same, bound]
      simp [Store.outline?, builders, inside]
    · next other =>
      rw [Session.outline]
      cases bound' : s.names.lookup n with
      | none => rfl
      | some handle =>
        cases handle with
        | builder id' =>
          have apart : id ≠ id' := fun same =>
            other (distinct.apart n name id' bound' (same ▸ bound))
          simp [Store.outline?, builders, apart]
        | config id => rfl
        | factory config => rfl

theorem Draws.distinct (h : s.Draws t d) (distinct : s.Distinct) : t.Distinct := by
  cases h with
  | kept names grown =>
    refine ⟨fun name id bound => ?_, by rw [names]; exact distinct.apart⟩
    exact (distinct.inside name id (names ▸ bound)).trans_le grown.length_le
  | @bound name handle d names grown fresh outline =>
    have newest : ∀ id, handle = .builder id → id < t.store.builders.length := by
      rintro id rfl
      obtain ⟨b, found, -⟩ := Option.map_eq_some_iff.mp outline
      exact (List.getElem?_eq_some_iff.mp found).1
    have cases : ∀ n id, t.names.lookup n = some (.builder id) →
        n = name ∧ handle = .builder id ∨ s.names.lookup n = some (.builder id) := by
      intro n id bound
      rw [names, lookup_cons_eq_ite] at bound
      split at bound
      · next same => exact .inl ⟨same, Option.some.inj bound⟩
      · exact .inr bound
    refine ⟨fun n id bound => ?_, fun n n' id bound bound' => ?_⟩
    · rcases cases n id bound with ⟨-, new⟩ | old
      · exact newest id new
      · exact (distinct.inside n id old).trans_le grown.length_le
    · rcases cases n id bound with ⟨rfl, new⟩ | old <;>
        rcases cases n' id bound' with ⟨rfl, new'⟩ | old'
      · rfl
      · exact absurd (distinct.inside n' id old') (Nat.not_lt.mpr (fresh id new))
      · exact absurd (distinct.inside n id old) (Nat.not_lt.mpr (fresh id new'))
      · exact distinct.apart n n' id old old'
  | changed bound names builders =>
    refine ⟨fun n id bound => ?_, by rw [names]; exact distinct.apart⟩
    rw [builders, List.length_set]
    exact distinct.inside n id (names ▸ bound)

/-! ## What a step draws -/

/-- A factory adds a statement, with its first clause if there are columns, and tells of that. -/
theorem selectFrom_outline {s t : Store} {factory : Nat} {columns : List Value} {dialect : Value}
    (made : s.selectFrom factory columns dialect = .ok (t, id, report)) :
    s.builders <+: t.builders ∧ id = s.builders.length ∧
      t.outline? (.builder id) =
        some (.statement (if columns.isEmpty then [] else ["SELECT"])) ∧
      report.map (·.record) =
        if columns.isEmpty then none else some (Logging.added "SELECT" 1) := by
  unfold Store.selectFrom at made
  dsimp only at made
  cases empty : columns.isEmpty with
  | true =>
    rw [empty, if_pos rfl] at made
    cases made
    refine ⟨⟨_, rfl⟩, rfl, ?_, rfl⟩
    simp [Store.outline?, Store.addBuilder, Store.replaceDialect, Store.addConfig]
  | false =>
    rw [empty, if_neg Bool.false_ne_true] at made
    obtain ⟨⟨u, r⟩, called, made⟩ := bind_eq_ok.mp made
    obtain ⟨b, change, found, planned, rfl, rfl⟩ := Store.call_eq_ok.mp called
    have newest : b = { config := (s.replaceDialect factory dialect).2 } := by
      simpa [Store.addBuilder] using found.symm
    subst newest
    obtain ⟨-, -, cs, -, rfl⟩ := Builder.planSelect_eq_ok.mp planned
    cases made
    refine ⟨⟨_, by simp [Store.addBuilder, Store.replaceDialect, Store.addConfig]; rfl⟩, rfl, ?_,
      rfl⟩
    simp [Store.outline?, Store.addBuilder, Store.replaceDialect, Store.addConfig,
      Builder.keywords, Builder.apply, Builder.enter, Builder.settle, Clause.keyword]

theorem outline_eq_statement {ks : List String} (h : s.outline name = some (.statement ks)) :
    ∃ id b, s.names.lookup name = some (.builder id) ∧ s.store.builders[id]? = some b ∧
      b.keywords = ks := by
  obtain ⟨handle, bound, outlined⟩ := Option.bind_eq_some_iff.mp h
  cases handle with
  | builder id =>
    obtain ⟨b, found, same⟩ := Option.map_eq_some_iff.mp outlined
    cases same
    exact ⟨id, b, bound, found, rfl⟩
  | config id => cases outlined
  | factory config => cases outlined

theorem outline_of_found (bound : s.names.lookup name = some (.builder id))
    (found : s.store.builders[id]? = some b) :
    s.outline name = some (.statement b.keywords) := by
  simp [outline, bound, Store.outline?, found]

/-- A call that asks a statement for no change leaves the outline as it is. -/
theorem draws_none {on method : String} {args : List Value} {named : List (String × Value)}
    (none : s.request? (.call on method args named) = none) :
    (Step.call on method args named).draws s.outline = Option.none := by
  rw [Step.draws]
  split
  · next ks c outlined made =>
    obtain ⟨id, b, bound, -⟩ := outline_eq_statement outlined
    rw [request?_call_eq_some.mpr ⟨bound, made⟩] at none
    cases none
  · rfl

theorem draws_call {on method : String} {args : List Value} {named : List (String × Value)}
    (h : s.effect (.call on method args named) = .ok (done, result, report)) :
    s.Draws done ((Step.call on method args named).draws s.outline) := by
  cases asked : s.request? (.call on method args named) with
  | some p =>
    obtain ⟨id, c⟩ := p
    obtain ⟨bound, made⟩ := request?_call_eq_some.mp asked
    rw [effect_of_request asked] at h
    obtain ⟨⟨t, r⟩, called, same⟩ := map_eq_ok.mp h
    cases same
    obtain ⟨b, change, found, planned, rfl, rfl⟩ := Store.call_eq_ok.mp called
    have drawn : (Step.call on method args named).draws s.outline =
        some (on, .statement (c.leaves b.keywords)) := by
      simp [Step.draws, outline_of_found bound found, made]
    rw [drawn, ← Builder.keywords_apply planned (s.store.configOf b).strict.isTrue]
    exact .changed bound rfl rfl
  | none =>
    obtain ⟨adds, names, -⟩ := runCall_adds asked h
    obtain ⟨added, grown, -⟩ := adds.grows
    rw [draws_none asked]
    exact .kept names ⟨added, grown.symm⟩

/-- A step that goes through leaves the outline that its method draws. -/
theorem draws_effect (distinct : s.Distinct) (h : s.effect x = .ok (done, result, report)) :
    s.Draws done (x.draws s.outline) := by
  cases x with
  | new name config =>
    obtain ⟨⟨t, k⟩, resolved, h⟩ := bind_eq_ok.mp h
    have kept := resolveConfig_eq_ok resolved
    cases h
    refine .bound rfl ⟨_, congrArg (· ++ [_]) kept.symm⟩ ?_ ?_
    · rintro id same
      cases same
      exact (congrArg List.length kept).ge
    · show (t.builders ++ [({ config := k } : Builder)])[t.builders.length]?.map
        (fun b => Outline.statement b.keywords) = _
      rw [List.getElem?_concat_length]
      rfl
  | config name fields =>
    obtain ⟨c, -, h⟩ := bind_eq_ok.mp h
    cases h
    exact .bound rfl (List.prefix_refl _) nofun rfl
  | factory name config dialect =>
    obtain ⟨⟨t, k⟩, resolved, h⟩ := bind_eq_ok.mp h
    have kept := (builders_makeFactory t k dialect).trans (resolveGiven_eq_ok resolved)
    cases h
    exact .bound rfl (by rw [← kept]; exact List.prefix_refl _) nofun rfl
  | select name factory columns dialect =>
    obtain ⟨k, -, h⟩ := bind_eq_ok.mp h
    obtain ⟨⟨t, id, r⟩, selected, h⟩ := bind_eq_ok.mp h
    cases h
    obtain ⟨grown, rfl, outlined, -⟩ := selectFrom_outline selected
    refine .bound rfl grown ?_ outlined
    rintro id same
    cases same
    exact Nat.le_refl _
  | call on method args named => exact draws_call h
  | copy on name =>
    obtain ⟨id, bound, h⟩ := bind_eq_ok.mp h
    rw [findBuilder_eq_ok] at bound
    have found := List.getElem?_eq_getElem (distinct.inside on id bound)
    obtain ⟨grown, newest, outlined⟩ := Store.copy_outline found
    cases h
    rw [Step.draws, outline_of_found bound found]
    refine .bound rfl grown ?_ outlined
    rintro id' same
    cases same
    exact newest.ge
  | build on =>
    obtain ⟨rfl, -⟩ := runBuild_eq_ok h
    exact .of_same rfl rfl
  | quoted on =>
    obtain ⟨rfl, -⟩ := runQuoted_eq_ok h
    exact .of_same rfl rfl
  | clauses on | text on | read on reader =>
    obtain ⟨id, -, h⟩ := bind_eq_ok.mp h
    obtain ⟨v, -, h⟩ := bind_eq_ok.mp h
    cases h
    exact .of_same rfl rfl
  | assign on field value | settings on =>
    obtain ⟨id, -, h⟩ := bind_eq_ok.mp h
    cases h
    exact .of_same rfl rfl
  | equal a b =>
    obtain ⟨same, -, h⟩ := bind_eq_ok.mp h
    cases h
    exact .of_same rfl rfl
  | correlate id =>
    cases h
    exact .of_same rfl rfl
  | configure level structured file extra =>
    obtain ⟨logging, -, h⟩ := bind_eq_ok.mp h
    cases h
    exact .of_same rfl rfl
  | event logger template args fields =>
    simp only [effect, runEvent] at h
    split at h <;> cases h
    exact .of_same rfl rfl

/-- What a step does to the objects and their names is done even if its record fails on the way. -/
theorem same_effect (h : s.effect x = .ok (done, result, report)) : done.Same (s.step x).1 := by
  cases report with
  | none => exact ⟨by simp [step, stepWith, h], by simp [step, stepWith, h]⟩
  | some r =>
    let logging := done.logging.asked r.record.logger
    cases failed : (logging.emit r.during r.record).failure with
    | none =>
      have after : (s.step x).1 = { done with logging := logging } := by
        simp [step, stepWith, h, logging, failed]
      exact ⟨by rw [after], by rw [after]⟩
    | some e =>
      have halted : (s.step x).1 = { s with store := r.during, logging := logging } := by
        simp [step, stepWith, h, logging, failed]
      have unfailing (presentable : r.record.Presentable) : False := by
        rw [Logging.State.failure_emit presentable] at failed
        cases failed
      cases reporting : x.isReporting with
      | false =>
        cases effect_told reporting h with
        | selected => exact (unfailing (Logging.added_presentable _)).elim
        | changed => exact (unfailing (Builder.recordOf_presentable _ _ _)).elim
        | finished _ _ _ same =>
          subst same
          exact ⟨by rw [halted], by rw [halted]⟩
      | true =>
        cases x with
        | event logger template args fields =>
          simp only [effect, runEvent] at h
          split at h <;> cases h
          exact ⟨by rw [halted]; rfl, by rw [halted]; rfl⟩
        | correlate id => cases h
        | configure => cases isSetup_eq_false h
        | _ => cases reporting

/-- A step that does not go through leaves all as it is. -/
theorem draws_step (distinct : s.Distinct) (x : Step) :
    s.Draws (s.step x).1 (if (s.effect x).isOk then x.draws s.outline else none) := by
  cases made : s.effect x with
  | error e =>
    have same : (s.step x).1 = s.afterFailure x := by simp [step, stepWith, made]
    rw [same]
    cases x <;> exact .of_same rfl rfl
  | ok p =>
    obtain ⟨done, result, report⟩ := p
    exact (draws_effect distinct made).of_same_after (same_effect made)

end Session

end SelectBuilder
