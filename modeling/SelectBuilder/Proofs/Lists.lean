import Mathlib.Data.List.Forall2
import Mathlib.Data.List.Nodup

/-!
# Lists

Entries that are looked up in lists, and lists whose entries are related one by one.
-/
namespace SelectBuilder

/-! ## Entries -/

theorem nodup_eraseDups {α : Type} [BEq α] [LawfulBEq α] (l : List α) : l.eraseDups.Nodup := by
  match l with
  | [] => simp
  | a :: rest =>
    rw [List.eraseDups_cons, List.nodup_cons]
    exact ⟨by simp, nodup_eraseDups _⟩
termination_by l.length
decreasing_by exact Nat.lt_succ_of_le (List.length_filter_le ..)

theorem eraseDups_of_nodup {α : Type} [BEq α] [LawfulBEq α] {l : List α} (nodup : l.Nodup) :
    l.eraseDups = l := by
  induction l with
  | nil => rfl
  | cons a rest ih =>
    obtain ⟨first, later⟩ := List.nodup_cons.mp nodup
    have others : rest.filter (fun b => !b == a) = rest :=
      List.filter_eq_self.mpr fun b hb => by
        simpa using fun same : b = a => first (same ▸ hb)
    rw [List.eraseDups_cons, others, ih later]

/-- Nothing is added to a list by what is in it. -/
theorem eraseDups_append_of_subset {α : Type} [BEq α] [LawfulBEq α] {l m : List α}
    (nodup : l.Nodup) (sub : m ⊆ l) : (l ++ m).eraseDups = l := by
  have none : m.removeAll l = [] := List.filter_eq_nil_iff.mpr fun a ha => by simpa using sub ha
  rw [List.eraseDups_append, none, eraseDups_of_nodup nodup]
  simp

theorem getElem?_filterMap_of_isSome {α β : Type} {l : List α} {h : α → Option β}
    (some : ∀ a ∈ l, (h a).isSome) (k : Nat) : (l.filterMap h)[k]? = l[k]?.bind h := by
  induction l generalizing k with
  | nil => simp
  | cons a rest ih =>
    obtain ⟨first, later⟩ := List.forall_mem_cons.mp some
    obtain ⟨b, hb⟩ := Option.isSome_iff_exists.mp first
    rw [List.filterMap_cons_some hb]
    cases k with
    | zero => simp [hb]
    | succ k => simpa using ih later k

theorem exists_mapM_eq_some {α β : Type} {f : α → Option β} {l : List α} :
    (∃ made, l.mapM f = some made) ↔ ∀ a ∈ l, (f a).isSome := by
  induction l with
  | nil => simp
  | cons a rest ih =>
    rw [List.forall_mem_cons, ← ih]
    simp [List.mapM_cons, Option.bind_eq_some_iff, Option.isSome_iff_exists]

/-- Lists whose members correspond go on doing so when a member and its counterpart are erased. -/
theorem mem_erase_iff_of_inj {α β : Type} [BEq α] [LawfulBEq α] [BEq β] [LawfulBEq β] {F : α → β}
    {X : α → Prop} (injective : ∀ x y, X x → X y → F x = F y → x = y) {pending : List α}
    {pending' : List β} (nodup : pending.Nodup) (nodup' : pending'.Nodup)
    (same : ∀ x, X x → (x ∈ pending ↔ F x ∈ pending')) {x : α} (hx : X x) (y : α) (hy : X y) :
    y ∈ pending.erase x ↔ F y ∈ pending'.erase (F x) := by
  have other : y ≠ x ↔ F y ≠ F x :=
    not_congr ⟨fun h => congrArg F h, injective y x hy hx⟩
  rw [nodup.mem_erase_iff, nodup'.mem_erase_iff, other, same y hy]

/-! ## Entries with keys -/

section

variable {α β : Type} [BEq α] [LawfulBEq α] {entries : List (α × β)} {key : α}

theorem lookup_cons_eq_ite [DecidableEq α] (e : α × β) (entries : List (α × β)) (key : α) :
    (e :: entries).lookup key = if key = e.1 then some e.2 else entries.lookup key := by
  rw [List.lookup_cons]
  split
  · next same => rw [if_pos (eq_of_beq same)]
  · next other => rw [if_neg (ne_of_beq_false other)]

theorem isSome_lookup : (entries.lookup key).isSome ↔ key ∈ entries.map Prod.fst := by
  rw [← Option.ne_none_iff_isSome, Ne, List.lookup_eq_none_iff]
  simp

/-- Where no key comes twice, every entry is looked up under its key. -/
theorem mem_iff_lookup (nodup : (entries.map Prod.fst).Nodup) {b : β} :
    (key, b) ∈ entries ↔ entries.lookup key = some b := by
  rw [List.lookup_eq_some_iff]
  constructor
  · intro among
    obtain ⟨before, after, rfl⟩ := List.append_of_mem among
    refine ⟨before, after, rfl, fun p earlier => ?_⟩
    rw [List.map_append, List.map_cons] at nodup
    have apart := (List.nodup_append.mp nodup).2.2 p.1 (List.mem_map_of_mem earlier) key (by simp)
    simpa [bne_iff_ne] using apart.symm
  · rintro ⟨before, after, rfl, -⟩
    simp

end

/-! ## Related entries -/

section

variable {α β : Type} {R : α → β → Prop}

theorem forall₂_set_modify {l : List α} {m : List β} (h : List.Forall₂ R l m) {i : Nat} {a a' : α}
    {f : β → β} (found : l[i]? = some a) (kept : ∀ b, R a b → R a' (f b)) :
    List.Forall₂ R (l.set i a') (m.modify i f) := by
  induction h generalizing i with
  | nil => cases found
  | cons hab rest ih =>
    cases i with
    | zero =>
      cases found
      exact .cons (kept _ hab) rest
    | succ i => exact .cons hab (ih found)

theorem forall₂_getElem? {l : List α} {m : List β} (h : List.Forall₂ R l m) (i : Nat) :
    (l[i]? = none ∧ m[i]? = none) ∨ ∃ a b, l[i]? = some a ∧ m[i]? = some b ∧ R a b := by
  induction h generalizing i with
  | nil => exact .inl ⟨rfl, rfl⟩
  | cons hab _ ih =>
    cases i with
    | zero => exact .inr ⟨_, _, rfl, rfl, hab⟩
    | succ i => simpa using ih i

/-- The same places are looked up in both lists. -/
theorem forall₂_lookup {l : List α} {m : List β} (h : List.Forall₂ R l m) (places : List Nat) :
    List.Forall₂ R (places.filterMap (l[·]?)) (places.filterMap (m[·]?)) := by
  induction places with
  | nil => exact .nil
  | cons i rest ih =>
    rcases forall₂_getElem? h i with ⟨left, right⟩ | ⟨a, b, left, right, hab⟩
    · simpa [left, right] using ih
    · simpa [left, right] using ⟨hab, ih⟩

theorem forall₂_replicate {l : List α} {b : β} (h : ∀ a ∈ l, R a b) :
    List.Forall₂ R l (List.replicate l.length b) := by
  induction l with
  | nil => exact .nil
  | cons a rest ih =>
    exact .cons (h a List.mem_cons_self) (ih fun c hc => h c (List.mem_cons_of_mem a hc))

theorem exists_of_forall₂ {l : List α} {m : List β} (h : List.Forall₂ R l m) {b : β} (hb : b ∈ m) :
    ∃ a, R a b := by
  induction h with
  | nil => cases hb
  | cons hab _ ih =>
    rcases List.mem_cons.mp hb with rfl | hb
    · exact ⟨_, hab⟩
    · exact ih hb

/-- A relation that follows for the members of a list follows for related lists. -/
theorem forall₂_imp_of_mem {S : α → β → Prop} {l : List α} {m : List β} (h : List.Forall₂ R l m)
    (imp : ∀ a, ∀ b ∈ m, R a b → S a b) : List.Forall₂ S l m := by
  induction h with
  | nil => exact .nil
  | cons hab _ ih =>
    have others := ih fun a b hb => imp a b (List.mem_cons_of_mem _ hb)
    exact .cons (imp _ _ List.mem_cons_self hab) others

/-- Related entries may be changed in both lists if they remain related. -/
theorem forall₂_modify {l : List α} {m : List β} (h : List.Forall₂ R l m) (i : Nat) {f : α → α}
    {g : β → β} (kept : ∀ a b, R a b → R (f a) (g b)) :
    List.Forall₂ R (l.modify i f) (m.modify i g) := by
  induction h generalizing i with
  | nil => simp
  | cons hab rest ih =>
    cases i with
    | zero => exact .cons (kept _ _ hab) rest
    | succ i => exact .cons hab (ih i)

/-- Lists from which the same is made one by one. -/
theorem map_eq_map_of_forall₂ {γ : Type} {f : α → γ} {g : β → γ} {l : List α} {m : List β}
    (h : List.Forall₂ (fun a b => f a = g b) l m) : l.map f = m.map g := by
  induction h with
  | nil => rfl
  | cons same _ ih => rw [List.map_cons, List.map_cons, same, ih]

end

end SelectBuilder
