import Mathlib.Data.List.Forall2
import SelectBuilder.Failure

/-!
# Outcomes

How an outcome that is put together from others succeeds, and outcomes that do not fail for want of
a finite text.
-/
namespace SelectBuilder

namespace Outcome

variable {α β : Type}

@[simp] theorem ok_bind (a : α) (f : α → Outcome β) : (.ok a : Outcome α) >>= f = f a := rfl

@[simp] theorem error_bind (e : Failure) (f : α → Outcome β) :
    (.error e : Outcome α) >>= f = .error e := rfl

theorem bind_eq_ok {x : Outcome α} {f : α → Outcome β} {b : β} :
    x >>= f = .ok b ↔ ∃ a, x = .ok a ∧ f a = .ok b := by
  constructor
  · intro h
    cases x with
    | ok a => exact ⟨a, rfl, h⟩
    | error e => cases h
  · rintro ⟨a, rfl, h⟩
    exact h

theorem map_eq_ok {x : Outcome α} {f : α → β} {b : β} :
    x.map f = .ok b ↔ ∃ a, x = .ok a ∧ f a = b := by
  cases x with
  | ok a => simp [Except.map]
  | error e => simp [Except.map]

theorem isOk_iff {x : Outcome α} : x.isOk ↔ ∃ a, x = .ok a := by
  cases x <;> simp [Except.isOk, Except.toBool]

@[simp] theorem isOk_map (x : Outcome α) (f : α → β) : (x.map f).isOk = x.isOk := by
  cases x <;> rfl

theorem mapError_eq_ok {ε : Type} {x : Except ε α} {f : ε → Failure} {a : α} :
    x.mapError f = .ok a ↔ x = .ok a := by
  cases x with
  | ok b => constructor <;> (intro h; cases h; rfl)
  | error e => constructor <;> (intro h; cases h)

theorem mapError_eq_error {ε : Type} {x : Except ε α} {f : ε → Failure} {e : Failure} :
    x.mapError f = .error e ↔ ∃ e', x = .error e' ∧ f e' = e := by
  cases x with
  | ok b =>
    constructor
    · intro h
      cases h
    · rintro ⟨_, h, -⟩
      cases h
  | error e' =>
    constructor
    · intro h
      cases h
      exact ⟨e', rfl, rfl⟩
    · rintro ⟨_, h, rfl⟩
      cases h
      rfl

theorem fmap_eq_ok {x : Outcome α} {f : α → β} {b : β} :
    f <$> x = .ok b ↔ ∃ a, x = .ok a ∧ f a = b := map_eq_ok

theorem pure_eq_ok {a b : α} : (pure a : Outcome α) = .ok b ↔ a = b := by
  simp [pure, Except.pure]

theorem mapM_concat_eq_ok {f : α → Outcome β} {items : List α} {a : α} {made : List β} :
    (items ++ [a]).mapM f = .ok made ↔
      ∃ bs b, items.mapM f = .ok bs ∧ f a = .ok b ∧ bs ++ [b] = made := by
  rw [List.mapM_append, bind_eq_ok]
  simp [fmap_eq_ok]

/-- What can be made of every item can be made of all of them. -/
theorem exists_mapM {f : α → Outcome β} {P : β → Prop} {items : List α}
    (h : ∀ a ∈ items, ∃ b, f a = .ok b ∧ P b) : ∃ bs, items.mapM f = .ok bs ∧ ∀ b ∈ bs, P b := by
  induction items with
  | nil => exact ⟨[], rfl, nofun⟩
  | cons a rest ih =>
    obtain ⟨⟨b, made, hb⟩, others⟩ := List.forall_mem_cons.mp h
    obtain ⟨bs, made', hbs⟩ := ih others
    exact ⟨b :: bs, by rw [List.mapM_cons, made, made']; rfl, List.forall_mem_cons.mpr ⟨hb, hbs⟩⟩

theorem mapM_isOk {f : α → Outcome β} {items : List α} :
    (∃ bs, items.mapM f = .ok bs) ↔ ∀ a ∈ items, ∃ b, f a = .ok b := by
  constructor
  · rintro ⟨bs, made⟩
    induction items generalizing bs with
    | nil => exact nofun
    | cons a rest ih =>
      rw [List.mapM_cons] at made
      obtain ⟨b, first, made⟩ := bind_eq_ok.mp made
      obtain ⟨others, later, -⟩ := bind_eq_ok.mp made
      exact List.forall_mem_cons.mpr ⟨⟨b, first⟩, ih others later⟩
  · intro each
    obtain ⟨bs, made, -⟩ := exists_mapM (P := fun _ => True) fun a ha =>
      (each a ha).imp fun b hb => ⟨hb, trivial⟩
    exact ⟨bs, made⟩

/-- What comes of it, if anything does, has a property. -/
def Gives (P : α → Prop) (m : Outcome α) : Prop := ∀ a, m = .ok a → P a

theorem gives_ok {P : α → Prop} {a : α} (h : P a) : Gives P (.ok a) := by
  intro b made
  cases made
  exact h

theorem gives_error {P : α → Prop} (e : Failure) : Gives P (.error e) := by
  intro a made
  cases made

theorem Gives.bind {P : β → Prop} {m : Outcome α} {f : α → Outcome β}
    (h : ∀ a, m = .ok a → Gives P (f a)) : Gives P (m >>= f) := by
  intro b made
  obtain ⟨a, known, made⟩ := bind_eq_ok.mp made
  exact h a known b made

/-- The outcome is no failure for want of a finite text. -/
def Bounded (x : Outcome α) : Prop := x ≠ .error .unboundedText

theorem bounded_ok (a : α) : Bounded (.ok a) := by simp [Bounded]

theorem bounded_error {e : Failure} (h : e ≠ .unboundedText) :
    Bounded (.error e : Outcome α) := by
  simpa [Bounded] using h

theorem Bounded.bind {x : Outcome α} {f : α → Outcome β} (h : Bounded x)
    (g : ∀ a, x = .ok a → Bounded (f a)) : Bounded (x >>= f) := by
  cases x with
  | ok a => exact g a rfl
  | error e =>
    intro unbounded
    apply h
    cases unbounded
    rfl

theorem Bounded.mapM {f : α → Outcome β} {items : List α} (h : ∀ a ∈ items, Bounded (f a)) :
    Bounded (items.mapM f) := by
  induction items with
  | nil => exact bounded_ok []
  | cons a rest ih =>
    rw [List.mapM_cons]
    refine (h a List.mem_cons_self).bind fun b _ => ?_
    exact (ih fun c hc => h c (List.mem_cons_of_mem a hc)).bind fun bs _ => bounded_ok (b :: bs)

theorem mapM_congr {f g : α → Outcome β} {items : List α} (h : ∀ a ∈ items, f a = g a) :
    items.mapM f = items.mapM g := by
  induction items with
  | nil => rfl
  | cons a rest ih =>
    rw [List.mapM_cons, List.mapM_cons, h a List.mem_cons_self,
      ih fun c hc => h c (List.mem_cons_of_mem a hc)]

theorem toOption_eq_some {x : Outcome α} {a : α} : x.toOption = some a ↔ x = .ok a := by
  cases x <;> simp [Except.toOption]

theorem mapM_eq_of_forall₂ {γ : Type} {F : α → Outcome γ} {G : β → Outcome γ} {l : List α}
    {m : List β} (h : List.Forall₂ (fun a b => F a = G b) l m) : l.mapM F = m.mapM G := by
  induction h with
  | nil => rfl
  | cons same _ ih => rw [List.mapM_cons, List.mapM_cons, same, ih]

end Outcome

end SelectBuilder
