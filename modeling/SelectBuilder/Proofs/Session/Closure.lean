import SelectBuilder.Proofs.Session.Run
import SelectBuilder.Proofs.Store.Copying

/-!
# Properties that calls keep

A property that fresh builders have, and that copies and calls of some sort keep, is one of all
builders, in whatever way these are made: by steps of a session whose calls are of that sort.
-/
namespace SelectBuilder

open Outcome

/-- A property of builders that fresh ones have, and that copies keep. In a store of such builders
calls of some sort keep it. -/
structure KeptBy (P : Builder → Prop) (Q : Call → Prop) : Prop where
  fresh : ∀ config, P { config := config }
  copied : ∀ f g b, P b → P (Store.relocateBuilder (Reference.map f g) b)
  called : ∀ (s : Store), (∀ d ∈ s.builders, P d) → ∀ b ∈ s.builders, ∀ c, Q c → ∀ change strict,
    b.plan (s.contextOf b) c = .ok change → P (b.apply strict change)

/-- The calls that a step makes are of some sort. -/
def Step.Calls (Q : Call → Prop) : Step → Prop
  | .call _ method args named =>
    (∀ c, Call.ofMethod method args named = .ok c → Q c) ∧ (method = "select" → Q (.select args))
  | .select _ _ columns _ => Q (.select columns)
  | _ => True

theorem Step.calls_of_made {Q : Call → Prop} {on method : String} {args : List Value}
    {named : List (String × Value)} {c : Call} (made : Call.ofMethod method args named = .ok c)
    (sort : Q c) (select : method = "select" → Q (.select args)) :
    (Step.call on method args named).Calls Q := by
  refine ⟨fun d other => ?_, select⟩
  rw [made] at other
  cases other
  exact sort

namespace Store

/-- All builders of a store have a property. -/
def Each (P : Builder → Prop) (s : Store) : Prop := ∀ b ∈ s.builders, P b

variable {P : Builder → Prop} {Q : Call → Prop} {s t : Store}

theorem Each.kept (h : s.Each P) (same : t.builders = s.builders) : t.Each P :=
  fun b hb => h b (same ▸ hb)

theorem Each.append {b : Builder} (h : s.Each P) (new : P b)
    (grown : t.builders = s.builders ++ [b]) : t.Each P := by
  unfold Each
  rw [grown]
  exact List.forall_mem_append.mpr ⟨h, List.forall_mem_singleton.mpr new⟩

theorem Each.copy (keeps : KeptBy P Q) (h : s.Each P) (id : Nat) : (s.copy id).1.Each P := by
  unfold Each
  rw [copy_eq]
  refine List.forall_mem_append.mpr ⟨h, fun d new => ?_⟩
  obtain ⟨b, source, rfl⟩ := List.mem_map.mp new
  obtain ⟨i, -, found⟩ := List.mem_filterMap.mp source
  exact keeps.copied _ _ b (h b (List.mem_of_getElem? found))

theorem Each.call (keeps : KeptBy P Q) (h : s.Each P) {c : Call} (sort : Q c) (id : Nat) :
    Gives (fun p => p.1.Each P) (s.call id c) := by
  rintro ⟨t, report⟩ made
  obtain ⟨b, change, found, planned, rfl, -⟩ := call_eq_ok.mp made
  have new := keeps.called s h b (List.mem_of_getElem? found) c sort change
    (s.configOf b).strict.isTrue planned
  intro d hd
  rcases List.mem_or_eq_of_mem_set hd with old | rfl
  · exact h d old
  · exact new

theorem Each.selectFrom (keeps : KeptBy P Q) (h : s.Each P) {columns : List Value}
    (sort : Q (.select columns)) (factory : Nat) (dialect : Value) :
    Gives (fun p => p.1.Each P) (s.selectFrom factory columns dialect) := by
  unfold Store.selectFrom
  dsimp only
  have more : ((s.replaceDialect factory dialect).1.addBuilder
      { config := (s.replaceDialect factory dialect).2 }).1.Each P :=
    h.append (keeps.fresh _) rfl
  split
  · exact gives_ok more
  · exact .bind fun p called => gives_ok (more.call keeps sort _ p called)

end Store

namespace Session

variable {P : Builder → Prop} {Q : Call → Prop} {s : Session} {x : Step}

theorem each_still {m : Outcome Effect} (h : s.store.Each P) (still : ∀ e, m = .ok e → e.1 = s) :
    Gives (fun e => e.1.store.Each P) m := by
  intro e made
  rwa [still e made]

theorem each_call (keeps : KeptBy P Q) (h : s.store.Each P) {on method : String}
    {args : List Value} {named : List (String × Value)}
    (calls : (Step.call on method args named).Calls Q) :
    Gives (fun e => e.1.store.Each P) (s.runCall on method args named) := by
  refine .bind fun _ _ => .bind fun handle _ => ?_
  cases handle with
  | builder id =>
    dsimp only
    split
    · exact each_still h fun e made => (runInquiry_eq_ok made).1
    · split
      · exact gives_error _
      · exact .bind fun c asked => .bind fun p called =>
          gives_ok (h.call keeps (calls.1 c asked) id p called)
  | factory config =>
    dsimp only
    unfold runFactoryCall
    split
    · next select =>
      exact .bind fun p selected =>
        gives_ok (h.selectFrom keeps (calls.2 select.1) config _ p selected)
    · split
      · exact .bind fun _ _ => gives_ok h
      · exact gives_error _
  | config id => exact gives_error _

theorem each_effect (keeps : KeptBy P Q) (h : s.store.Each P) (calls : x.Calls Q) :
    Gives (fun e => e.1.store.Each P) (s.effect x) := by
  cases x with
  | new name config =>
    refine .bind fun ⟨t, k⟩ resolved => gives_ok ?_
    exact (h.kept (resolveConfig_eq_ok resolved)).append (keeps.fresh k) rfl
  | config name fields => exact .bind fun _ _ => gives_ok (h.kept rfl)
  | factory name config dialect =>
    refine .bind fun ⟨t, k⟩ resolved => gives_ok ?_
    exact (h.kept (resolveGiven_eq_ok resolved)).kept (builders_makeFactory t k dialect)
  | select name factory columns dialect =>
    refine .bind fun k _ => .bind fun p selected => gives_ok ?_
    exact h.selectFrom keeps calls k dialect p selected
  | call on method args named => exact each_call keeps h calls
  | copy on name => exact .bind fun id _ => gives_ok (h.copy keeps id)
  | build on => exact each_still h fun e made => (runBuild_eq_ok made).1
  | clauses on => exact .bind fun _ _ => .bind fun _ _ => gives_ok h
  | quoted on => exact each_still h fun e made => (runQuoted_eq_ok made).1
  | text on => exact .bind fun _ _ => .bind fun _ _ => gives_ok h
  | read on reader => exact .bind fun _ _ => .bind fun _ _ => gives_ok h
  | assign on field value => exact .bind fun _ _ => gives_ok (h.kept rfl)
  | settings on => exact .bind fun _ _ => gives_ok h
  | equal a b => exact .bind fun _ _ => gives_ok h
  | correlate id => exact gives_ok h
  | configure level structured file extra => exact .bind fun _ _ => gives_ok h
  | event logger template args fields =>
    simp only [effect, runEvent]
    split
    · exact gives_error _
    · exact gives_ok h

theorem each_step (keeps : KeptBy P Q) (h : s.store.Each P) (calls : x.Calls Q) :
    (s.step x).1.store.Each P := by
  cases asked : s.request? x with
  | none =>
    rcases s.step_cases x asked with ⟨same, -⟩ | ⟨done, result, report, made, same, -⟩
    · rwa [same]
    · rw [same]
      exact each_effect keeps h calls _ made
  | some p =>
    cases called : s.store.call p.1 p.2 with
    | error e => rwa [(step_refused asked called).1]
    | ok q =>
      rw [(step_called asked called).1]
      exact each_effect keeps h calls _ (effect_called asked called)

theorem each_run (keeps : KeptBy P Q) (h : s.store.Each P) {xs : List Step}
    (calls : ∀ x ∈ xs, x.Calls Q) : (s.run xs).store.Each P := by
  induction xs generalizing s with
  | nil => exact h
  | cons x xs ih =>
    obtain ⟨first, later⟩ := List.forall_mem_cons.mp calls
    exact ih (each_step keeps h first) later

end Session

end SelectBuilder
