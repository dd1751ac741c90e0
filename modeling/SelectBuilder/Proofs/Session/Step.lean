import SelectBuilder.Proofs.Builder.Planning
import SelectBuilder.Proofs.Logging.ChangeRecord

/-!
# One step of a session

A step does one of two things to the builders: a call is accepted and changes the builder it is made
on, or builders are added and the ones that were there stay as they are. A record that could not be
delivered makes no third case, since no receiver fails on the record of a change.
-/
namespace SelectBuilder

open Outcome

namespace Store

/-- A builder as it is made: a fresh one, or one that starts with an accepted call. -/
inductive Started : Builder → Prop where
  | fresh (config : Nat) : Started { config := config }
  | called {config : Nat} {ctx : Context} {c : Call} {change : Change} (strict : Bool)
      (planned : ({ config := config } : Builder).plan ctx c = .ok change) :
      Started (({ config := config } : Builder).apply strict change)

/-- A builder that may be added to a store: one that is made, or a copy. -/
inductive Added (s : Store) : Builder → Prop where
  | started {b : Builder} (made : Started b) : Added s b
  | copied (f : Reference → Reference) {b : Builder} (among : b ∈ s.builders) :
      Added s (relocateBuilder f b)

/-- The builders of a store stay as they are, and at most new ones of some sort come after them.
Nothing is said of the configurations. -/
def GrowsBy (s : Store) (P : Builder → Prop) (t : Store) : Prop :=
  ∃ added, t.builders = s.builders ++ added ∧ ∀ b ∈ added, P b

abbrev Grows (s t : Store) : Prop := s.GrowsBy s.Added t

theorem GrowsBy.kept {s t : Store} {P : Builder → Prop} (same : t.builders = s.builders) :
    s.GrowsBy P t :=
  ⟨[], by simp [same], nofun⟩

theorem GrowsBy.one {s t : Store} {P : Builder → Prop} {b : Builder} (added : P b)
    (grown : t.builders = s.builders ++ [b]) : s.GrowsBy P t :=
  ⟨[b], grown, by simpa using added⟩

theorem GrowsBy.mono {s t : Store} {P Q : Builder → Prop} (h : s.GrowsBy P t)
    (weaker : ∀ b, P b → Q b) : s.GrowsBy Q t := by
  obtain ⟨added, grown, each⟩ := h
  exact ⟨added, grown, fun b hb => weaker b (each b hb)⟩

theorem grows_copy (s : Store) (id : Nat) : s.Grows (s.copy id).1 := by
  refine ⟨_, rfl, fun b hb => ?_⟩
  obtain ⟨source, among, rfl⟩ := List.mem_map.mp hb
  obtain ⟨i, -, found⟩ := List.mem_filterMap.mp among
  exact .copied _ (List.mem_of_getElem? found)

theorem call_eq_ok {s done : Store} {id : Nat} {c : Call} {report : Report} :
    s.call id c = .ok (done, report) ↔
      ∃ b change, s.builders[id]? = some b ∧ b.plan (s.contextOf b) c = .ok change ∧
        s.setBuilder id (b.apply (s.configOf b).strict.isTrue change) = done ∧
        ⟨b.recordOf (b.enter (s.configOf b).strict.isTrue change) change,
          s.setBuilder id (b.enter (s.configOf b).strict.isTrue change)⟩ = report := by
  constructor
  · intro h
    obtain ⟨b, hb, h⟩ := bind_eq_ok.mp h
    obtain ⟨change, planned, h⟩ := bind_eq_ok.mp h
    have found : s.builders[id]? = some b := by
      unfold builder at hb
      split at hb
      · simp_all
      · cases hb
    cases h
    exact ⟨b, change, found, planned, rfl, rfl⟩
  · rintro ⟨b, change, found, planned, rfl, rfl⟩
    refine bind_eq_ok.mpr ⟨b, by simp [builder, found], ?_⟩
    exact bind_eq_ok.mpr ⟨change, planned, rfl⟩

theorem call_eq_error {s : Store} {id : Nat} {b : Builder} {c : Call} {e : Failure}
    (found : s.builders[id]? = some b) (refused : b.plan (s.contextOf b) c = .error e) :
    s.call id c = .error e := by
  simp only [call, builder, found, ok_bind, refused, error_bind]

theorem call_presentable {s done : Store} {id : Nat} {c : Call} {report : Report}
    (h : s.call id c = .ok (done, report)) : report.record.Presentable := by
  obtain ⟨b, change, -, -, -, rfl⟩ := call_eq_ok.mp h
  exact b.recordOf_presentable _ change

/-- A call on a builder that has just been added. -/
theorem call_newest_eq_ok {s done : Store} {config : Nat} {c : Call} {report : Report}
    (h : (s.addBuilder { config := config }).1.call s.builders.length c = .ok (done, report)) :
    ∃ strict ctx change, ({ config := config } : Builder).plan ctx c = .ok change ∧
      done.builders = s.builders ++ [({ config := config } : Builder).apply strict change] := by
  obtain ⟨b, change, found, planned, rfl, -⟩ := call_eq_ok.mp h
  have newest : b = { config := config } := by simpa [addBuilder] using found.symm
  subst newest
  let settings := (s.addBuilder { config := config }).1.configOf { config := config }
  exact ⟨settings.strict.isTrue, _, change, planned, by simp [setBuilder, addBuilder, settings]⟩

theorem selectFrom_eq_ok {s done : Store} {factory id : Nat} {columns : List Value}
    {dialect : Value} {report : Option Report}
    (h : s.selectFrom factory columns dialect = .ok (done, id, report)) :
    s.GrowsBy Started done ∧ ∀ r, report = some r → r.record.Presentable := by
  unfold selectFrom at h
  dsimp only at h
  split at h
  · cases h
    exact ⟨.one (.fresh _) rfl, by simp⟩
  · obtain ⟨⟨t, r⟩, called, h⟩ := bind_eq_ok.mp h
    obtain ⟨strict, ctx, change, planned, grown⟩ := call_newest_eq_ok called
    cases h
    exact ⟨.one (.called strict planned) grown, by simpa using call_presentable called⟩

end Store

/-- Whether a step copies a builder. -/
def Step.isCopy : Step → Bool
  | .copy _ _ => true
  | _ => false

theorem Step.isCopy_iff {x : Step} : x.isCopy = true ↔ ∃ on name, x = .copy on name := by
  cases x <;> simp [isCopy]

namespace Session

theorem resolveConfig_eq_ok {s : Session} {config : ConfigSource} {t : Store} {k : Nat}
    (h : s.resolveConfig config = .ok (t, k)) : t.builders = s.store.builders := by
  cases config with
  | shared name =>
    obtain ⟨handle, -, h⟩ := bind_eq_ok.mp h
    cases handle <;> cases h
    rfl
  | fields fields =>
    obtain ⟨c, -, h⟩ := bind_eq_ok.mp h
    cases h
    rfl

theorem resolveGiven_eq_ok {s : Session} {config : Option ConfigSource} {t : Store}
    {k : Option Nat} (h : s.resolveGiven config = .ok (t, k)) :
    t.builders = s.store.builders := by
  cases config with
  | none =>
    cases h
    rfl
  | some c =>
    obtain ⟨⟨u, j⟩, resolved, same⟩ := map_eq_ok.mp h
    cases same
    exact resolveConfig_eq_ok resolved

theorem builders_makeFactory (s : Store) (config : Option Nat) (dialect : Value) :
    (s.makeFactory config dialect).1.builders = s.builders := by
  unfold Store.makeFactory
  cases config <;> dsimp only <;> split <;> rfl

/-- No receiver fails on the report, or the store is untouched when it goes out. -/
def Timely (s : Session) (report : Option Store.Report) : Prop :=
  ∀ r, report = some r → r.during = s.store ∨ r.record.Presentable

theorem Timely.none (s : Session) : s.Timely none := nofun

/-- The effect of a step that makes no change to a builder and at most adds some. -/
structure Adds (s : Session) (P : Builder → Prop) (done : Session)
    (report : Option Store.Report) : Prop where
  grows : s.store.GrowsBy P done.store
  timely : s.Timely report

theorem Adds.of_builders {s done : Session} {P : Builder → Prop}
    (h : done.store.builders = s.store.builders) : s.Adds P done none := ⟨.kept h, .none s⟩

theorem Adds.still (s : Session) {P : Builder → Prop} : s.Adds P s none := .of_builders rfl

theorem runNew_adds {s done : Session} {name : String} {config : ConfigSource} {result : Result}
    {report : Option Store.Report} (h : s.runNew name config = .ok (done, result, report)) :
    s.Adds Store.Started done report := by
  obtain ⟨⟨t, k⟩, resolved, h⟩ := bind_eq_ok.mp h
  have kept := resolveConfig_eq_ok resolved
  cases h
  exact ⟨.one (.fresh k) (congrArg (· ++ [_]) kept), .none s⟩

theorem runFactory_adds {s done : Session} {name : String} {config : Option ConfigSource}
    {dialect : Value} {result : Result} {report : Option Store.Report}
    (h : s.runFactory name config dialect = .ok (done, result, report)) :
    s.Adds Store.Started done report := by
  obtain ⟨⟨t, k⟩, resolved, h⟩ := bind_eq_ok.mp h
  cases h
  exact .of_builders ((builders_makeFactory t k dialect).trans (resolveGiven_eq_ok resolved))

theorem runSelect_adds {s done : Session} {name : String} {factory : Option String}
    {columns : List Value} {dialect : Value} {result : Result} {report : Option Store.Report}
    (h : s.runSelect name factory columns dialect = .ok (done, result, report)) :
    s.Adds Store.Started done report := by
  obtain ⟨k, -, h⟩ := bind_eq_ok.mp h
  obtain ⟨⟨t, id, r⟩, selected, h⟩ := bind_eq_ok.mp h
  cases h
  obtain ⟨grows, presentable⟩ := Store.selectFrom_eq_ok selected
  exact ⟨grows, fun r hr => .inr (presentable r hr)⟩

theorem runBuild_eq_ok {s done : Session} {on : String} {result : Result}
    {report : Option Store.Report} (h : s.runBuild on = .ok (done, result, report)) :
    done = s ∧ s.Timely report := by
  obtain ⟨id, -, h⟩ := bind_eq_ok.mp h
  obtain ⟨⟨rendered, r⟩, built, h⟩ := bind_eq_ok.mp h
  obtain ⟨b, -, built⟩ := bind_eq_ok.mp built
  obtain ⟨sql, -, built⟩ := bind_eq_ok.mp built
  cases built
  cases h
  refine ⟨rfl, fun r hr => .inl ?_⟩
  cases hr
  rfl

theorem runQuoted_eq_ok {s done : Session} {on : String} {result : Result}
    {report : Option Store.Report} (h : s.runQuoted on = .ok (done, result, report)) :
    done = s ∧ report = none := by
  obtain ⟨handle, -, h⟩ := bind_eq_ok.mp h
  cases handle with
  | builder id =>
    obtain ⟨t, -, h⟩ := bind_eq_ok.mp h
    cases h
    exact ⟨rfl, rfl⟩
  | config id =>
    obtain ⟨t, -, h⟩ := bind_eq_ok.mp h
    cases h
    exact ⟨rfl, rfl⟩
  | factory config => cases h

theorem runInquiry_eq_ok {s done : Session} {on method : String} {result : Result}
    {report : Option Store.Report} (h : s.runInquiry on method = .ok (done, result, report)) :
    done = s ∧ result = .done ∧ s.Timely report := by
  obtain ⟨id, -, h⟩ := bind_eq_ok.mp h
  split at h
  · cases h
    exact ⟨rfl, rfl, .none s⟩
  · obtain ⟨⟨t, res, rep⟩, built, h⟩ := bind_eq_ok.mp h
    cases h
    exact ⟨rfl, rfl, (runBuild_eq_ok built).2⟩
  · obtain ⟨sql, -, h⟩ := bind_eq_ok.mp h
    cases h
    exact ⟨rfl, rfl, .none s⟩

theorem runFactoryCall_adds {s done : Session} {config : Nat} {method : String}
    {args : List Value} {named : List (String × Value)} {result : Result}
    {report : Option Store.Report}
    (h : s.runFactoryCall config method args named = .ok (done, result, report)) :
    s.Adds Store.Started done report ∧ done.names = s.names ∧ result = .done := by
  unfold runFactoryCall at h
  split at h
  · obtain ⟨⟨t, id, r⟩, selected, h⟩ := bind_eq_ok.mp h
    cases h
    obtain ⟨grows, presentable⟩ := Store.selectFrom_eq_ok selected
    exact ⟨⟨grows, fun r hr => .inr (presentable r hr)⟩, rfl, rfl⟩
  · split at h
    · obtain ⟨v, -, h⟩ := bind_eq_ok.mp h
      cases h
      exact ⟨.still s, rfl, rfl⟩
    · cases h

/-- The builder that a step is a call on, and the call. -/
def request? (s : Session) : Step → Option (Nat × Call)
  | .call on method args named =>
    match s.names.lookup on, Call.ofMethod method args named with
    | some (.builder id), .ok c => some (id, c)
    | _, _ => none
  | _ => none

theorem request?_call_eq_some {s : Session} {on method : String} {args : List Value}
    {named : List (String × Value)} {id : Nat} {c : Call} :
    s.request? (.call on method args named) = some (id, c) ↔
      s.names.lookup on = some (.builder id) ∧ Call.ofMethod method args named = .ok c := by
  dsimp only [request?]
  split <;> simp_all

theorem request?_eq_some {s : Session} {x : Step} {id : Nat} {c : Call}
    (h : s.request? x = some (id, c)) : ∃ on method args named, x = .call on method args named := by
  cases x with
  | call on method args named => exact ⟨on, method, args, named, rfl⟩
  | _ => cases h

theorem find_eq_ok {s : Session} {name : String} {handle : Handle} :
    s.find name = .ok handle ↔ s.names.lookup name = some handle := by
  unfold find
  cases s.names.lookup name <;> simp

/-- What can be called with operands is neither an inquiry nor a part. -/
theorem methods_disjoint :
    ∀ m ∈ methods.map Prod.fst, (inquiries ++ parts).contains m = false := by decide

theorem mem_methods_of_ofMethod {method : String} {args : List Value}
    {named : List (String × Value)} {c : Call} (h : Call.ofMethod method args named = .ok c) :
    method ∈ methods.map Prod.fst := by
  unfold Call.ofMethod at h
  split at h
  · next signature found =>
    obtain ⟨before, after, split, -⟩ := List.lookup_eq_some_iff.mp found
    exact List.mem_map.mpr ⟨(method, signature), by simp [split], rfl⟩
  · cases h

/-- The effect of a call, whatever its operands are. -/
def callEffect (s : Session) (id : Nat) (c : Call) : Outcome Effect :=
  (s.store.call id c).map fun p => ({ s with store := p.1 }, .done, some p.2)

theorem runCall_method {s : Session} {on method : String} {args : List Value}
    {named : List (String × Value)} {id : Nat} (found : s.names.lookup on = some (.builder id))
    (known : method ∈ methods.map Prod.fst) :
    s.runCall on method args named = Call.ofMethod method args named >>= s.callEffect id := by
  have other := methods_disjoint method known
  have noInquiry : inquiries.contains method = false := by simp_all
  have resolved : s.find on = .ok (.builder id) := find_eq_ok.mpr found
  have member : s.checkMember on method = .ok () := by
    unfold checkMember
    rw [resolved, ok_bind, if_pos (by simp_all [members])]
    rfl
  unfold runCall
  simp only [member, resolved, ok_bind, noInquiry, other]
  cases Call.ofMethod method args named with
  | error e => rfl
  | ok c =>
    simp only [ok_bind, callEffect]
    cases s.store.call id c <;> rfl

theorem effect_of_request {s : Session} {x : Step} {id : Nat} {c : Call}
    (h : s.request? x = some (id, c)) : s.effect x = s.callEffect id c := by
  obtain ⟨on, method, args, named, rfl⟩ := request?_eq_some h
  obtain ⟨found, made⟩ := request?_call_eq_some.mp h
  exact (runCall_method found (mem_methods_of_ofMethod made)).trans (by rw [made, ok_bind])

/-- A statement answers to calls and to inquiries. -/
theorem answers_call {s done : Session} {on method : String} {args : List Value}
    {named : List (String × Value)} {id : Nat} {result : Result} {report : Option Store.Report}
    (found : s.names.lookup on = some (.builder id))
    (h : s.runCall on method args named = .ok (done, result, report)) :
    (∃ c, Call.ofMethod method args named = .ok c) ∨
      method ∈ inquiries ∧ s.runInquiry on method = .ok (done, result, report) := by
  obtain ⟨-, -, h⟩ := bind_eq_ok.mp h
  simp only [find_eq_ok.mpr found, ok_bind] at h
  split at h
  · next asked => exact .inr ⟨by simp_all, h⟩
  · split at h
    · cases h
    · obtain ⟨c, made, -⟩ := bind_eq_ok.mp h
      exact .inl ⟨c, made⟩

/-- A call on a builder that asks for no change is an inquiry. -/
theorem runCall_builder {s done : Session} {on method : String} {args : List Value}
    {named : List (String × Value)} {id : Nat} {result : Result} {report : Option Store.Report}
    (found : s.names.lookup on = some (.builder id))
    (none : s.request? (.call on method args named) = none)
    (h : s.runCall on method args named = .ok (done, result, report)) :
    done = s ∧ result = .done ∧ s.Timely report := by
  rcases answers_call found h with ⟨c, made⟩ | ⟨-, asked⟩
  · rw [request?_call_eq_some.mpr ⟨found, made⟩] at none
    cases none
  · exact runInquiry_eq_ok asked

/-- A call that asks no builder for a change leaves the names and shows nothing. -/
theorem runCall_adds {s done : Session} {on method : String} {args : List Value}
    {named : List (String × Value)} {result : Result} {report : Option Store.Report}
    (none : s.request? (.call on method args named) = none)
    (h : s.runCall on method args named = .ok (done, result, report)) :
    s.Adds Store.Started done report ∧ done.names = s.names ∧ result = .done := by
  have called := h
  obtain ⟨-, -, h⟩ := bind_eq_ok.mp h
  obtain ⟨handle, found, h⟩ := bind_eq_ok.mp h
  cases handle with
  | builder id =>
    obtain ⟨rfl, rfl, timely⟩ := runCall_builder (find_eq_ok.mp found) none called
    exact ⟨⟨.kept rfl, timely⟩, rfl, rfl⟩
  | factory config => exact runFactoryCall_adds h
  | config id => cases h

theorem runEvent_eq_ok {s done : Session} {logger : Option String} {template : String}
    {args : List Value} {fields : List (String × Value)} {result : Result}
    {report : Option Store.Report}
    (h : s.runEvent logger template args fields = .ok (done, result, report)) :
    done.store = s.store ∧ s.Timely report := by
  unfold runEvent at h
  split at h
  · cases h
  · cases h
    refine ⟨rfl, fun r hr => .inl ?_⟩
    cases hr
    rfl

theorem findBuilder_eq_ok {s : Session} {on : String} {id : Nat} :
    s.findBuilder on = .ok id ↔ s.names.lookup on = some (.builder id) := by
  unfold findBuilder find
  cases s.names.lookup on with
  | none => simp
  | some handle => cases handle <;> simp [pure_eq_ok]

theorem effect_copy {s done : Session} {on name : String} {result : Result}
    {report : Option Store.Report} (h : s.effect (.copy on name) = .ok (done, result, report)) :
    ∃ id, s.names.lookup on = some (.builder id) ∧ done.store = (s.store.copy id).1 ∧
      report = none := by
  obtain ⟨id, found, h⟩ := bind_eq_ok.mp h
  cases h
  exact ⟨id, findBuilder_eq_ok.mp found, rfl, rfl⟩

theorem effect_adds {s done : Session} {x : Step} {result : Result}
    {report : Option Store.Report} (none : s.request? x = none) (original : x.isCopy = false)
    (h : s.effect x = .ok (done, result, report)) : s.Adds Store.Started done report := by
  cases x with
  | new name config => exact runNew_adds h
  | config name fields =>
    obtain ⟨c, -, h⟩ := bind_eq_ok.mp h
    cases h
    exact .of_builders rfl
  | factory name config dialect => exact runFactory_adds h
  | select name factory columns dialect => exact runSelect_adds h
  | call on method args named => exact (runCall_adds none h).1
  | copy on name => cases original
  | build on =>
    obtain ⟨rfl, timely⟩ := runBuild_eq_ok h
    exact ⟨.kept rfl, timely⟩
  | clauses on =>
    obtain ⟨id, -, h⟩ := bind_eq_ok.mp h
    obtain ⟨texts, -, h⟩ := bind_eq_ok.mp h
    cases h
    exact .still s
  | quoted on =>
    obtain ⟨rfl, rfl⟩ := runQuoted_eq_ok h
    exact .still done
  | text on =>
    obtain ⟨id, -, h⟩ := bind_eq_ok.mp h
    obtain ⟨sql, -, h⟩ := bind_eq_ok.mp h
    cases h
    exact .still s
  | read on reader =>
    obtain ⟨id, -, h⟩ := bind_eq_ok.mp h
    obtain ⟨parsed, -, h⟩ := bind_eq_ok.mp h
    cases h
    exact .still s
  | assign on field value =>
    obtain ⟨id, -, h⟩ := bind_eq_ok.mp h
    cases h
    exact .of_builders rfl
  | settings on =>
    obtain ⟨id, -, h⟩ := bind_eq_ok.mp h
    cases h
    exact .still s
  | equal a b =>
    obtain ⟨same, -, h⟩ := bind_eq_ok.mp h
    cases h
    exact .still s
  | correlate id =>
    cases h
    exact .of_builders rfl
  | configure level structured file extra =>
    obtain ⟨logging, -, h⟩ := bind_eq_ok.mp h
    cases h
    exact .of_builders rfl
  | event logger template args fields =>
    obtain ⟨store, timely⟩ := runEvent_eq_ok h
    exact ⟨.kept (congrArg Store.builders store), timely⟩

/-- A call that the builder refuses leaves the session as it is. -/
theorem step_refused {s : Session} {x : Step} {id : Nat} {c : Call} {e : Failure}
    (asked : s.request? x = some (id, c)) (refused : s.store.call id c = .error e) :
    (s.step x).1 = s ∧ (s.step x).2.outcome = .error e := by
  obtain ⟨on, method, args, named, rfl⟩ := request?_eq_some asked
  have failed : s.effect (.call on method args named) = .error e := by
    rw [effect_of_request asked, callEffect, refused]
    rfl
  simp [step, stepWith, failed, refuse, afterFailure]

theorem effect_called {s : Session} {x : Step} {id : Nat} {c : Call} {t : Store}
    {report : Store.Report} (asked : s.request? x = some (id, c))
    (called : s.store.call id c = .ok (t, report)) :
    s.effect x = .ok ({ s with store := t }, .done, some report) := by
  rw [effect_of_request asked, callEffect, called]
  rfl

/-- Calls with the same plan make the same step. -/
theorem step_congr {s : Session} {on : String} {id : Nat} {method method' : String}
    {args args' : List Value} {named named' : List (String × Value)} {c c' : Call}
    (bound : s.names.lookup on = some (.builder id))
    (made : Call.ofMethod method args named = .ok c)
    (made' : Call.ofMethod method' args' named' = .ok c')
    (same : ∀ b : Builder, b.plan (s.store.contextOf b) c = b.plan (s.store.contextOf b) c') :
    s.step (.call on method args named) = s.step (.call on method' args' named') := by
  have called : s.store.call id c = s.store.call id c' := by simp only [Store.call, same]
  have effects :
      s.effect (.call on method args named) = s.effect (.call on method' args' named') := by
    rw [effect_of_request (request?_call_eq_some.mpr ⟨bound, made⟩),
      effect_of_request (request?_call_eq_some.mpr ⟨bound, made'⟩), callEffect, called, callEffect]
  unfold step stepWith
  rw [effects]
  rfl

/-- The report of a call that the builder accepts stops nothing. -/
theorem step_called {s : Session} {x : Step} {id : Nat} {c : Call} {t : Store}
    {report : Store.Report} (asked : s.request? x = some (id, c))
    (called : s.store.call id c = .ok (t, report)) :
    (s.step x).1.store = t ∧ (s.step x).1.names = s.names ∧
      (s.step x).2.outcome = .ok .done := by
  have delivered := Logging.State.failure_emit (Store.call_presentable called)
  simp [step, stepWith, effect_called asked called, delivered, Result.checked]

/-- After a step the store and the names are either as before or as the effect of the step has
them. -/
theorem step_cases (s : Session) (x : Step) (none : s.request? x = none) :
    ((s.step x).1.store = s.store ∧ (s.step x).1.names = s.names) ∨
      ∃ done result report, s.effect x = .ok (done, result, report) ∧
        (s.step x).1.store = done.store ∧ (s.step x).1.names = done.names := by
  unfold step stepWith
  split
  · left
    cases x <;> exact ⟨rfl, rfl⟩
  · next done result made => exact .inr ⟨done, result, Option.none, made, rfl, rfl⟩
  · next done result report made =>
    dsimp only
    split
    · next e failed =>
      cases copy : x.isCopy with
      | true =>
        obtain ⟨on, name, rfl⟩ := Step.isCopy_iff.mp copy
        obtain ⟨-, -, -, none⟩ := effect_copy made
        cases none
      | false =>
        rcases (effect_adds none copy made).timely report rfl with during | presentable
        · exact .inl ⟨during, rfl⟩
        · rw [Logging.State.failure_emit presentable] at failed
          cases failed
    · exact .inr ⟨done, result, some report, made, rfl, rfl⟩

/-- A step that is neither a call on a builder nor a copy adds only builders that it makes. -/
theorem starts_step (s : Session) {x : Step} (none : s.request? x = none)
    (original : x.isCopy = false) : s.store.GrowsBy Store.Started (s.step x).1.store := by
  rcases s.step_cases x none with ⟨same, -⟩ | ⟨done, result, report, made, store, -⟩
  · exact .kept (congrArg Store.builders same)
  · exact store ▸ (effect_adds none original made).grows

theorem grows_step (s : Session) (x : Step) (none : s.request? x = none) :
    s.store.Grows (s.step x).1.store := by
  cases copy : x.isCopy with
  | false => exact (s.starts_step none copy).mono fun _ => .started
  | true =>
    obtain ⟨on, name, rfl⟩ := Step.isCopy_iff.mp copy
    rcases s.step_cases _ none with ⟨same, -⟩ | ⟨done, result, report, made, store, -⟩
    · exact .kept (congrArg Store.builders same)
    · obtain ⟨id, -, copied, -⟩ := effect_copy made
      rw [store, copied]
      exact s.store.grows_copy id

/-- A copy of a builder is made at once; no record goes out. -/
theorem step_copy {s : Session} {on name : String} {id : Nat}
    (found : s.names.lookup on = some (.builder id)) :
    (s.step (.copy on name)).1.store = (s.store.copy id).1 ∧
      (s.step (.copy on name)).1.names = (name, .builder (s.store.copy id).2) :: s.names := by
  have made : s.effect (.copy on name) =
      .ok (quiet ({ s with store := (s.store.copy id).1 }.bind name
        (.builder (s.store.copy id).2)) .done) := by
    simp only [effect, findBuilder_eq_ok.mpr found, ok_bind]
    rfl
  simp [step, stepWith, made, quiet, bind]

/-- The builder and the call of a step that is a successful call on a builder. -/
def accepted? (s : Session) (x : Step) : Option (Nat × Call) :=
  (s.request? x).filter fun _ => (s.step x).2.outcome.isOk

theorem accepted?_eq_some {s : Session} {x : Step} {id : Nat} {c : Call} :
    s.accepted? x = some (id, c) ↔
      s.request? x = some (id, c) ∧ ∃ t report, s.store.call id c = .ok (t, report) := by
  unfold accepted?
  rw [Option.filter_eq_some_iff]
  refine and_congr_right fun asked => ?_
  cases called : s.store.call id c with
  | ok p =>
    have answered := (step_called asked called).2.2
    exact iff_of_true (by rw [answered]; rfl) ⟨p.1, p.2, rfl⟩
  | error e => simp [(step_refused asked called).2, Except.isOk, Except.toBool]

/-- A successful call changes the builder that it is made on, and no other. -/
theorem store_accepted {s : Session} {x : Step} {id : Nat} {c : Call}
    (h : s.accepted? x = some (id, c)) :
    ∃ b change, s.store.builders[id]? = some b ∧ b.plan (s.store.contextOf b) c = .ok change ∧
      (s.step x).1.store =
        s.store.setBuilder id (b.apply (s.store.configOf b).strict.isTrue change) := by
  obtain ⟨asked, t, report, called⟩ := accepted?_eq_some.mp h
  obtain ⟨b, change, found, planned, made, -⟩ := Store.call_eq_ok.mp called
  exact ⟨b, change, found, planned, (step_called asked called).1.trans made.symm⟩

/-- A call that is not accepted leaves the store as it is. -/
theorem store_refused {s : Session} {x : Step} {p : Nat × Call} (h : s.accepted? x = none)
    (asked : s.request? x = some p) : (s.step x).1.store = s.store := by
  cases called : s.store.call p.1 p.2 with
  | ok q =>
    have accepted := accepted?_eq_some.mpr ⟨asked, q.1, q.2, called⟩
    rw [h] at accepted
    cases accepted
  | error e => rw [(step_refused asked called).1]

/-- Any other step leaves the builders and at most adds new ones. -/
theorem grows_of_accepted {s : Session} {x : Step} (h : s.accepted? x = none) :
    s.store.Grows (s.step x).1.store := by
  cases asked : s.request? x with
  | none => exact s.grows_step x asked
  | some p => exact .kept (congrArg Store.builders (store_refused h asked))

/-- If it is no copy, it has made the builders that it adds. -/
theorem starts_of_accepted {s : Session} {x : Step} (h : s.accepted? x = none)
    (original : x.isCopy = false) : s.store.GrowsBy Store.Started (s.step x).1.store := by
  cases asked : s.request? x with
  | none => exact s.starts_step asked original
  | some p => exact .kept (congrArg Store.builders (store_refused h asked))

end Session

end SelectBuilder
