import SelectBuilder.Proofs.Session.Step

/-!
# Runs of a session

A run makes steps one after the other, whatever they answer. What is proved of a step is carried
over to runs here: for all builders of the store, or for one builder and the calls it accepts.
-/
namespace SelectBuilder

namespace Session

def run (s : Session) (xs : List Step) : Session := xs.foldl (fun s x => (s.step x).1) s

@[simp] theorem run_nil (s : Session) : s.run [] = s := rfl

@[simp] theorem run_cons (s : Session) (x : Step) (xs : List Step) :
    s.run (x :: xs) = (s.step x).1.run xs := rfl

theorem run_append (s : Session) (xs ys : List Step) : s.run (xs ++ ys) = (s.run xs).run ys :=
  List.foldl_append

/-- What is seen of a run: the outcome of every step, and the view of its subject afterwards. -/
def answers (s : Session) : List Step → List (Outcome Result × Option View)
  | [] => []
  | x :: xs => ((s.step x).2.outcome, (s.step x).2.view) :: (s.step x).1.answers xs

theorem view_step (s : Session) (x : Step) :
    (s.step x).2.view = (s.step x).1.view (Step.subject? x) := by
  unfold step stepWith
  split
  · cases x <;> rfl
  · rfl
  · dsimp only
    split <;> rfl

/-- A property holds at the start of a run and after each of its steps. -/
def Always (P : Session → Prop) (s : Session) : List Step → Prop
  | [] => P s
  | x :: xs => P s ∧ Always P (s.step x).1 xs

theorem Always.start {P : Session → Prop} {s : Session} {xs : List Step} (h : Always P s xs) :
    P s := by
  cases xs with
  | nil => exact h
  | cons x xs => exact h.1

theorem Always.before {P : Session → Prop} {s : Session} {xs ys : List Step}
    (h : Always P s (xs ++ ys)) : Always P s xs := by
  induction xs generalizing s with
  | nil => exact h.start
  | cons x xs ih => exact ⟨h.1, ih h.2⟩

/-- No step of a run fails. -/
def Succeeds (s : Session) : List Step → Prop
  | [] => True
  | x :: xs => (s.step x).2.outcome.isOk ∧ Succeeds (s.step x).1 xs

/-- The settings of a builder are strict. -/
def isStrict (id : Nat) (s : Session) : Bool :=
  s.store.builders[id]?.any fun b => (s.store.configOf b).strict.isTrue

theorem isStrict_of_found {s : Session} {id : Nat} {b : Builder}
    (found : s.store.builders[id]? = some b) :
    s.isStrict id = (s.store.configOf b).strict.isTrue := by
  simp [isStrict, found]

/-- The call that a builder accepts in a step. -/
def acceptedBy (s : Session) (id : Nat) (x : Step) : Option Call :=
  (s.accepted? x).bind fun p => if p.1 = id then some p.2 else none

theorem acceptedBy_iff_accepted? {s : Session} {id : Nat} {x : Step} {c : Call} :
    s.acceptedBy id x = some c ↔ s.accepted? x = some (id, c) := by
  unfold acceptedBy
  cases s.accepted? x with
  | none => simp
  | some p => cases p; simp

/-- The accepted calls are the calls of methods that are answered without a failure. -/
theorem acceptedBy_eq_some {s : Session} {id : Nat} {x : Step} {c : Call} :
    s.acceptedBy id x = some c ↔
      ∃ on method args named, x = .call on method args named ∧
        s.names.lookup on = some (.builder id) ∧ Call.ofMethod method args named = .ok c ∧
        (s.step x).2.outcome.isOk := by
  unfold acceptedBy accepted?
  constructor
  · intro h
    obtain ⟨⟨id', c'⟩, accepted, h⟩ := Option.bind_eq_some_iff.mp h
    obtain ⟨asked, ok⟩ := Option.filter_eq_some_iff.mp accepted
    split at h <;> cases h
    next same =>
    obtain ⟨on, method, args, named, rfl⟩ := request?_eq_some asked
    obtain ⟨found, made⟩ := request?_call_eq_some.mp asked
    exact ⟨on, method, args, named, rfl, same ▸ found, made, ok⟩
  · rintro ⟨on, method, args, named, rfl, found, made, ok⟩
    rw [request?_call_eq_some.mpr ⟨found, made⟩]
    simp [Option.filter, ok]

/-- The calls that a builder accepts in a run, in their order. -/
def history (id : Nat) (s : Session) : List Step → List Call
  | [] => []
  | x :: xs => (s.acceptedBy id x).toList ++ history id (s.step x).1 xs

theorem history_append (id : Nat) (s : Session) (xs ys : List Step) :
    s.history id (xs ++ ys) = s.history id xs ++ (s.run xs).history id ys := by
  induction xs generalizing s with
  | nil => rfl
  | cons x xs ih => simp [history, ih]

end Session

namespace Store

theorem GrowsBy.builder {s t : Store} {P : Builder → Prop} (h : s.GrowsBy P t) {id : Nat}
    {b : Builder} (found : s.builders[id]? = some b) : t.builders[id]? = some b := by
  obtain ⟨added, grown, -⟩ := h
  rw [grown, List.getElem?_append_left (List.getElem?_eq_some_iff.mp found).1, found]

/-- A property of builders that fresh builders have, and that copies and accepted calls keep, is
one that the added builders have as well. -/
theorem Grows.all {s t : Store} {P : Builder → Prop} (h : s.Grows t)
    (fresh : ∀ config, P { config := config }) (copied : ∀ f b, P b → P (relocateBuilder f b))
    (applied : ∀ ctx b c change strict, P b → b.plan ctx c = .ok change → P (b.apply strict change))
    (all : ∀ b ∈ s.builders, P b) : ∀ b ∈ t.builders, P b := by
  obtain ⟨added, grown, each⟩ := h
  rw [grown]
  intro b hb
  rcases List.mem_append.mp hb with old | new
  · exact all b old
  · cases each b new with
    | started made =>
      cases made with
      | fresh config => exact fresh config
      | called strict planned => exact applied _ _ _ _ strict (fresh _) planned
    | copied f among => exact copied f _ (all _ among)

end Store

namespace Session

/-- What a step does to one builder. -/
theorem builder_step {s : Session} {id : Nat} {b : Builder} (x : Step)
    (found : s.store.builders[id]? = some b) :
    (s.acceptedBy id x = none ∧ (s.step x).1.store.builders[id]? = some b) ∨
      ∃ c change, s.acceptedBy id x = some c ∧
        b.plan (s.store.contextOf b) c = .ok change ∧
        (s.step x).1.store.builders[id]? =
          some (b.apply (s.store.configOf b).strict.isTrue change) := by
  unfold acceptedBy
  cases accepted : s.accepted? x with
  | none => exact .inl ⟨rfl, (grows_of_accepted accepted).builder found⟩
  | some p =>
    obtain ⟨at', c⟩ := p
    obtain ⟨b', change, found', planned, store⟩ := store_accepted accepted
    rw [store]
    by_cases same : at' = id
    · subst same
      obtain rfl : b = b' := Option.some.inj (found.symm.trans found')
      have inside := (List.getElem?_eq_some_iff.mp found).1
      exact .inr ⟨c, change, by simp, planned, by simp [inside]⟩
    · exact .inl ⟨by simp [same], by simp [same, found]⟩

/-- A property of builders that fresh builders have, and that copies and accepted calls keep, holds
of every builder after a run. -/
theorem all_builders_run {P : Builder → Prop} (fresh : ∀ config, P { config := config })
    (copied : ∀ f b, P b → P (Store.relocateBuilder f b))
    (applied : ∀ ctx b c change strict, P b → b.plan ctx c = .ok change → P (b.apply strict change))
    {s : Session} (all : ∀ b ∈ s.store.builders, P b) (xs : List Step) :
    ∀ b ∈ (s.run xs).store.builders, P b := by
  induction xs generalizing s with
  | nil => exact all
  | cons x xs ih =>
    refine @ih (s.step x).1 ?_
    cases accepted : s.accepted? x with
    | none => exact (grows_of_accepted accepted).all fresh copied applied all
    | some p =>
      obtain ⟨b, change, found, planned, store⟩ := store_accepted accepted
      rw [store]
      intro b' hb'
      rcases List.mem_or_eq_of_mem_set hb' with old | rfl
      · exact all b' old
      · exact applied _ b p.2 change _ (all b (List.mem_of_getElem? found)) planned

end Session

end SelectBuilder
