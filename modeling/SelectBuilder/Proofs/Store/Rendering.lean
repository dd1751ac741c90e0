import SelectBuilder.Proofs.Value.Agreement
import SelectBuilder.Store.Basic

/-!
# Rendering in a store

What the text of a builder and the quoted form of an object depend on.
-/
namespace SelectBuilder

theorem Builder.render_congr {r r' : Resolver} {b : Builder}
    (h : ∀ c ∈ b.clauses, r.Agree r' c.references) : b.render r = b.render r' := by
  unfold render
  rw [Outcome.mapM_congr fun c hc => c.render_congr (h c hc)]

namespace Store

/-- A builder of the store is rendered by its clauses. -/
theorem render_eq {s : Store} {id : Nat} {b : Builder} (found : s.builders[id]? = some b) :
    s.render id =
      b.render ⟨s.textWithin ((List.range s.builders.length).erase id), s.quoted⟩ := by
  have inside : id ∈ List.range s.builders.length :=
    List.mem_range.mpr (List.getElem?_eq_some_iff.mp found).1
  rw [render, textWithin, dif_pos inside, found]

/-- The quoted forms of objects do not show what the clauses of a builder are. -/
theorem quotedWithin_congr {s t : Store} (configs : t.configs = s.configs)
    (builders : t.builders.map Builder.config = s.builders.map Builder.config)
    (pending : List Reference) (r : Reference) :
    t.quotedWithin pending r = s.quotedWithin pending r := by
  have config (id : Nat) :
      t.builders[id]?.map Builder.config = s.builders[id]?.map Builder.config := by
    simpa using congrArg (·[id]?) builders
  fun_induction s.quotedWithin pending r with
  | case1 pending id inside b found _ ih =>
    obtain ⟨b', found', same⟩ := Option.map_eq_some_iff.mp ((config id).trans (by rw [found]; rfl))
    rw [quotedWithin, dif_pos inside]
    simp only [found', same, ih]
  | case2 pending id inside none =>
    have none' : t.builders[id]? = Option.none := by simpa [none] using config id
    rw [quotedWithin, dif_pos inside]
    simp only [none']
  | case3 pending id inside c found _ ih =>
    rw [quotedWithin, dif_pos inside]
    simp only [configs, found, funext ih]
  | case4 pending id inside none =>
    rw [quotedWithin, dif_pos inside]
    simp only [configs, none]
  | case5 pending r inside => rw [quotedWithin, dif_neg inside]

theorem quoted_congr {s t : Store} (configs : t.configs = s.configs)
    (builders : t.builders.map Builder.config = s.builders.map Builder.config) :
    t.quoted = s.quoted := by
  have lengths : t.builders.length = s.builders.length := by
    simpa using congrArg List.length builders
  funext r
  simp only [quoted, references, lengths, configs, quotedWithin_congr configs builders]

theorem map_config_set {bs : List Builder} {id : Nat} {b d : Builder} (found : bs[id]? = some b)
    (config : d.config = b.config) : (bs.set id d).map Builder.config = bs.map Builder.config := by
  refine List.ext_getElem? fun i => ?_
  have inside := (List.getElem?_eq_some_iff.mp found).1
  by_cases same : id = i
  · subst same
    simp only [List.getElem?_map, List.getElem?_set_self inside, found, Option.map_some, config]
  · simp [same]

/-- A builder may be replaced by one that has the same configuration. -/
theorem quoted_setBuilder {s : Store} {id : Nat} {b b' : Builder}
    (found : s.builders[id]? = some b) (config : b'.config = b.config) :
    (s.setBuilder id b').quoted = s.quoted :=
  quoted_congr rfl (map_config_set found config)

/-- A builder that may not be entered is not looked at, but for its configuration. -/
theorem textWithin_setBuilder {s : Store} {id : Nat} {b b' : Builder}
    (found : s.builders[id]? = some b) (config : b'.config = b.config) {pending : List Nat}
    (outside : id ∉ pending) (i : Nat) :
    (s.setBuilder id b').textWithin pending i = s.textWithin pending i := by
  have other (i : Nat) (inside : i ∈ pending) :
      (s.setBuilder id b').builders[i]? = s.builders[i]? := by
    have apart : id ≠ i := fun same => outside (same ▸ inside)
    simp [apart]
  fun_induction s.textWithin pending i with
  | case1 pending i inside d found' ih =>
    have texts : (s.setBuilder id b').textWithin (pending.erase i) =
        s.textWithin (pending.erase i) := funext fun j =>
      ih j (fun h => outside (List.mem_of_mem_erase h)) fun k hk => other k (List.mem_of_mem_erase hk)
    rw [textWithin, dif_pos inside]
    simp only [other i inside, found', texts, quoted_setBuilder found config]
  | case2 pending i inside none =>
    rw [textWithin, dif_pos inside]
    simp only [other i inside, none]
  | case3 pending i inside => rw [textWithin, dif_neg inside]

/-- A builder that takes the place of another one is rendered with the texts that the others had for
that one. -/
theorem render_setBuilder {s : Store} {id : Nat} {b b' : Builder}
    (found : s.builders[id]? = some b) (config : b'.config = b.config) :
    (s.setBuilder id b').render id =
      b'.render ⟨s.textWithin ((List.range s.builders.length).erase id), s.quoted⟩ := by
  have inside := (List.getElem?_eq_some_iff.mp found).1
  have apart : id ∉ (List.range s.builders.length).erase id :=
    List.nodup_range.not_mem_erase
  have texts := funext (textWithin_setBuilder found config apart)
  rw [render_eq (b := b') (by simp [inside]), quoted_setBuilder found config, ← texts]
  simp

end Store

end SelectBuilder
