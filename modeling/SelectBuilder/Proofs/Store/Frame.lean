import Mathlib.Logic.Relation
import SelectBuilder.Proofs.Store.Mirroring

/-!
# Objects that stay as they are

Objects that refer to one another alone look the same in every store that keeps them.
-/
namespace SelectBuilder

@[simp] theorem Reference.map_id (x : Reference) : x.map id id = x := by
  cases x <;> rfl

namespace Store

variable {s t u : Store} {X Y : Reference → Prop}

/-- Nothing in a set of objects refers to what is not in the set. -/
def Closed (s : Store) (X : Reference → Prop) : Prop := ∀ x y, X x → y ∈ s.links x → X y

/-- Some objects of a store are in another one as they were. -/
structure Keeps (X : Reference → Prop) (s t : Store) : Prop where
  builder : ∀ i, X (.builder i) → t.builders[i]? = s.builders[i]?
  config : ∀ k, X (.config k) → t.configs[k]? = s.configs[k]?

theorem Keeps.refl (X : Reference → Prop) (s : Store) : s.Keeps X s :=
  ⟨fun _ _ => rfl, fun _ _ => rfl⟩

theorem Keeps.trans (h : s.Keeps X t) (h' : t.Keeps X u) : s.Keeps X u :=
  ⟨fun i hi => (h'.builder i hi).trans (h.builder i hi),
    fun k hk => (h'.config k hk).trans (h.config k hk)⟩

theorem Keeps.mono (h : s.Keeps Y t) (sub : ∀ x, X x → Y x) : s.Keeps X t :=
  ⟨fun i hi => h.builder i (sub _ hi), fun k hk => h.config k (sub _ hk)⟩

theorem keeps_setBuilder {id : Nat} (b : Builder) (other : ¬X (.builder id)) :
    s.Keeps X (s.setBuilder id b) where
  builder i hi := by
    have apart : id ≠ i := by rintro rfl; exact other hi
    simp [apart]
  config _ _ := rfl

theorem keeps_setConfig {id : Nat} (c : Config) (other : ¬X (.config id)) :
    s.Keeps X (s.setConfig id c) where
  builder _ _ := rfl
  config k hk := by
    have apart : id ≠ k := by rintro rfl; exact other hk
    simp [setConfig, apart]

theorem links_builder {i : Nat} {b : Builder} (found : s.builders[i]? = some b) :
    s.links (.builder i) = .config b.config :: b.references := by
  simp [links, found, Builder.references]

theorem links_config {k : Nat} {c : Config} (found : s.configs[k]? = some c) :
    s.links (.config k) = c.references := by
  simp [links, found]

theorem Keeps.links (h : s.Keeps X t) {x : Reference} (hx : X x) : t.links x = s.links x := by
  cases x with
  | builder i => simp only [Store.links, h.builder i hx]
  | config k => simp only [Store.links, h.config k hx]

theorem Keeps.closed (h : s.Keeps X t) (closed : s.Closed X) : t.Closed X := fun x y hx link =>
  closed x y hx (h.links hx ▸ link)

/-- What is kept of the objects of a store is in the other one. -/
theorem Keeps.inside (h : s.Keeps (· ∈ s.references) t) : s.references ⊆ t.references := by
  intro x hx
  cases x with
  | builder i =>
    have found := List.getElem?_eq_getElem (builder_mem_references.mp hx)
    have kept := (h.builder i hx).trans found
    exact builder_mem_references.mpr (List.getElem?_eq_some_iff.mp kept).1
  | config k =>
    have found := List.getElem?_eq_getElem (config_mem_references.mp hx)
    have kept := (h.config k hx).trans found
    exact config_mem_references.mpr (List.getElem?_eq_some_iff.mp kept).1

theorem Keeps.quotedAlike (h : s.Keeps X t) (closed : s.Closed X) : s.QuotedAlike id id X t where
  injective x y _ _ same := by simpa using same
  builder i b hi found :=
    ⟨closed _ _ hi (by simp [links_builder found]), b, (h.builder i hi).trans found, rfl⟩
  config k c hk found :=
    ⟨fun x hx => closed _ x hk (by rwa [links_config found]), c, (h.config k hk).trans found,
      .refl c⟩
  noBuilder i hi none := (h.builder i hi).trans none
  noConfig k hk none := (h.config k hk).trans none

/-- The quoted form of a kept object is kept if all that it refers to is. -/
theorem Keeps.quoted (h : s.Keeps X t) (closed : s.Closed X) {x : Reference} (hx : X x) :
    t.quoted x = s.quoted x := by
  simpa using (s.quoted_alike (h.quotedAlike closed) hx).symm

/-- The text of a kept builder is kept if all that it refers to is. -/
theorem Keeps.render (h : s.Keeps X t) (closed : s.Closed X) {i : Nat} (hi : X (.builder i)) :
    t.render i = s.render i := by
  have inside {i : Nat} {b : Builder} (hi : X (.builder i)) (found : s.builders[i]? = some b)
      (x : Reference) (hx : x ∈ b.references) : X x :=
    closed _ x hi (by simp [links_builder found, hx])
  have alike : s.WrittenAlike id (fun i => X (.builder i)) t :=
    .of_same (fun i hi => h.builder i hi) (fun i b hi found j hj => inside hi found _ hj)
      fun i b hi found x hx => (h.quoted closed (inside hi found x hx)).symm
  exact (s.render_alike alike hi).symm

/-- Some objects are as they were, and the builders among them have the texts that they had. -/
structure Spares (X : Reference → Prop) (s t : Store) : Prop where
  keeps : s.Keeps X t
  text : ∀ i, X (.builder i) → t.render i = s.render i

theorem Keeps.spares (h : s.Keeps X t)
    (closed : s.Closed X) : s.Spares X t := ⟨h, fun _ hi => h.render closed hi⟩

/-! ## References to builders -/

/-- The clauses of a builder refer to a builder. -/
def Refers (s : Store) (i j : Nat) : Prop :=
  ∃ b, s.builders[i]? = some b ∧ .builder j ∈ b.references

/-- A builder is another one, or the clauses of builders lead to that. -/
def Reaches (s : Store) : Nat → Nat → Prop := Relation.ReflTransGen s.Refers

theorem refers_setBuilder {id : Nat} {b d : Builder} (found : s.builders[id]? = some b)
    {i j : Nat} :
    (s.setBuilder id d).Refers i j ↔
      if i = id then .builder j ∈ d.references else s.Refers i j := by
  have inside := (List.getElem?_eq_some_iff.mp found).1
  split
  · next same =>
    subst same
    simp [Refers, inside]
  · next other => simp [Refers, List.getElem?_set_ne (Ne.symm other)]

/-- The text of a builder does not change with a builder that it does not lead to. -/
theorem render_of_apart {s t : Store} {i k : Nat} (keeps : s.Keeps (fun y => ¬y = .builder k) t)
    (settings : t.builders.map Builder.config = s.builders.map Builder.config)
    (apart : ¬s.Reaches i k) : t.render i = s.render i := by
  have configs : t.configs = s.configs :=
    List.ext_getElem? fun j => keeps.config j Reference.noConfusion
  have quoted : t.quoted = s.quoted := quoted_congr configs settings
  have alike : s.WrittenAlike id (fun i => ¬s.Reaches i k) t := by
    refine .of_same (fun i hi => keeps.builder i ?_) (fun i b hi found j hj leads => hi ?_)
      fun i b hi found x hx => congrFun quoted.symm x
    · rintro ⟨⟩
      exact hi .refl
    · exact .head ⟨b, found, hj⟩ leads
  exact (s.render_alike alike apart).symm

end Store

end SelectBuilder
