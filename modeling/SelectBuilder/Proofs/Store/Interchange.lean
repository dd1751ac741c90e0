import SelectBuilder.Proofs.Store.Mirroring
import SelectBuilder.Store.Operations

/-!
# Interchangeable builders

Builders whose clauses are written alike can take each other's place in a store: neither its texts
nor its quoted forms tell which of them is there.
-/
namespace SelectBuilder

/-- The clauses are of one kind and have one text, whatever they are rendered with. -/
structure Clause.Interchangeable (c d : Clause) : Prop where
  kindName : c.kindName = d.kindName
  keyword : c.keyword = d.keyword
  render : ∀ r, c.render r = d.render r

theorem Clause.Interchangeable.refl (c : Clause) : c.Interchangeable c := ⟨rfl, rfl, fun _ => rfl⟩

structure Builder.Interchangeable (b d : Builder) : Prop where
  config : b.config = d.config
  stage : b.stage = d.stage
  clauses : List.Forall₂ Clause.Interchangeable b.clauses d.clauses

theorem Builder.Interchangeable.refl (b : Builder) : b.Interchangeable b :=
  ⟨rfl, rfl, List.forall₂_same.mpr fun c _ => .refl c⟩

namespace Store

/-- Two stores with the same configurations and interchangeable builders. -/
structure Interchangeable (s t : Store) : Prop where
  configs : s.configs = t.configs
  builders : List.Forall₂ Builder.Interchangeable s.builders t.builders

variable {s t : Store}

theorem Interchangeable.refl (s : Store) : s.Interchangeable s :=
  ⟨rfl, List.forall₂_same.mpr fun b _ => .refl b⟩

theorem Interchangeable.setBuilder (s : Store) (id : Nat) {b d : Builder}
    (h : b.Interchangeable d) : (s.setBuilder id b).Interchangeable (s.setBuilder id d) where
  configs := rfl
  builders := by
    rw [builders_setBuilder, builders_setBuilder, List.set_eq_modify, List.set_eq_modify]
    exact forall₂_modify (Interchangeable.refl s).builders id fun _ _ _ => h

theorem Interchangeable.quoted (h : s.Interchangeable t) : s.quoted = t.quoted :=
  quoted_congr h.configs (map_eq_map_of_forall₂ (h.builders.imp fun _ _ like => like.config))

theorem Interchangeable.render (h : s.Interchangeable t) : s.render = t.render := by
  have alike : s.WrittenAlike id (fun _ => True) t :=
    { injective := fun i j _ _ same => same
      builder := fun i b _ found => by
        rcases forall₂_getElem? h.builders i with ⟨none, -⟩ | ⟨b', d, found', mirrored, like⟩
        · rw [found] at none
          cases none
        · obtain rfl : b = b' := Option.some.inj (found.symm.trans found')
          refine ⟨fun _ _ => trivial, d, mirrored, like.clauses.imp fun c c' both => ?_⟩
          intro statement statement' same
          rw [← both.render, h.quoted]
          exact c.render_congr ⟨same, fun _ _ => rfl⟩
      noBuilder := fun i _ none => by
        rcases forall₂_getElem? h.builders i with ⟨-, none'⟩ | ⟨b, d, found, -⟩
        · exact none'
        · rw [none] at found
          cases found }
  exact funext fun i => render_alike alike trivial

theorem Interchangeable.clauseTexts (h : s.Interchangeable t) : s.clauseTexts = t.clauseTexts := by
  have resolver : s.resolver = t.resolver := congrArg₂ Resolver.mk h.render h.quoted
  funext i
  rcases forall₂_getElem? h.builders i with ⟨none, none'⟩ | ⟨b, d, found, found', like⟩
  · simp only [Store.clauseTexts, builder, none, none', Outcome.error_bind]
  · have texts : (b.clauses.map fun c => (c.kindName, c.keyword, c.render s.resolver)) =
        d.clauses.map fun c => (c.kindName, c.keyword, c.render t.resolver) :=
      map_eq_map_of_forall₂ <| like.clauses.imp fun c c' both => by
        rw [both.kindName, both.keyword, both.render, resolver]
    simp only [Store.clauseTexts, builder, found, found', Outcome.ok_bind, texts]

theorem Interchangeable.stages (h : s.Interchangeable t) :
    s.builders.map Builder.stage = t.builders.map Builder.stage :=
  map_eq_map_of_forall₂ (h.builders.imp fun _ _ like => like.stage)

end Store

end SelectBuilder
