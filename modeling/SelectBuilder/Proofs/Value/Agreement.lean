import SelectBuilder.Proofs.Value.References

/-!
# Agreement on references

What becomes of a value or a clause depends on a resolver only through the references that occur in
it: two resolvers that agree on these give the same texts, and fail alike.
-/
namespace SelectBuilder

/-- Two resolvers show some references alike. -/
structure Resolver.Agree (r r' : Resolver) (refs : List Reference) : Prop where
  statement : ∀ id, .builder id ∈ refs → r.statement id = r'.statement id
  quoted : ∀ x ∈ refs, r.quoted x = r'.quoted x

theorem Resolver.Agree.nil (r r' : Resolver) : r.Agree r' [] := ⟨by simp, by simp⟩

theorem Resolver.Agree.mono {r r' : Resolver} {refs more : List Reference} (h : r.Agree r' more)
    (sub : refs ⊆ more) : r.Agree r' refs :=
  ⟨fun id hid => h.statement id (sub hid), fun x hx => h.quoted x (sub hx)⟩

theorem Resolver.agree_append {r r' : Resolver} {refs more : List Reference} :
    r.Agree r' (refs ++ more) ↔ r.Agree r' refs ∧ r.Agree r' more := by
  constructor
  · intro h
    exact ⟨h.mono (List.subset_append_left ..), h.mono (List.subset_append_right ..)⟩
  · rintro ⟨h, h'⟩
    refine ⟨fun id hid => ?_, fun x hx => ?_⟩
    · rcases List.mem_append.mp hid with hid | hid
      · exact h.statement id hid
      · exact h'.statement id hid
    · rcases List.mem_append.mp hx with hx | hx
      · exact h.quoted x hx
      · exact h'.quoted x hx

theorem Resolver.agree_flatMap {α : Type} {r r' : Resolver} {refs : α → List Reference}
    {items : List α} :
    r.Agree r' (items.flatMap refs) ↔ ∀ a ∈ items, r.Agree r' (refs a) := by
  induction items with
  | nil => simp [Agree.nil]
  | cons a rest ih => simp [agree_append, ih]

namespace Value

variable {name name' : Reference → Outcome String}

mutual

theorem quotedForm_congr : (v : Value) → (∀ x ∈ v.references, name x = name' x) →
    quotedForm name v = quotedForm name' v
  | list items, h => by simp only [quotedForm, quotedForms_congr items h]
  | tuple items, h => by simp only [quotedForm, quotedForms_congr items h]
  | set items, h => by simp only [quotedForm, quotedForms_congr items h]
  | dict entries, h => by simp only [quotedForm, quotedEntries_congr entries h]
  | number v, h => by simp only [quotedForm, quotedForm_congr v h]
  | quoted v, h => by simp only [quotedForm, quotedForm_congr v h]
  | raw v, h => by simp only [quotedForm, quotedForm_congr v h]
  | column n a, h => by
    have hn := quotedForm_congr n fun x hx => h x (by simp [references, hx])
    have ha := quotedForm_congr a fun x hx => h x (by simp [references, hx])
    simp only [quotedForm, hn, ha]
  | table s a q, h => by
    have hs := quotedForm_congr s fun x hx => h x (by simp [references, hx])
    have ha := quotedForm_congr a fun x hx => h x (by simp [references, hx])
    have hq := quotedForm_congr q fun x hx => h x (by simp [references, hx])
    simp only [quotedForm, hs, ha, hq]
  | order c d, h => by
    have hc := quotedForm_congr c fun x hx => h x (by simp [references, hx])
    have hd := quotedForm_congr d fun x hx => h x (by simp [references, hx])
    simp only [quotedForm, hc, hd]
  | fault kind args, h => by simp only [quotedForm, quotedForms_congr args h]
  | reference r, h => h r (by simp [references])
  | null, _ | bool _, _ | int _, _ | double _, _ | decimal _, _ | text _, _ | joinType _, _
  | direction _, _ | code _, _ | bytes _, _ | path _, _ | iterator _, _ | problem _, _ => rfl

theorem quotedForms_congr : (vs : List Value) → (∀ x ∈ referencesAll vs, name x = name' x) →
    quotedForms name vs = quotedForms name' vs
  | [], _ => rfl
  | v :: rest, h => by
    have hv := quotedForm_congr v fun x hx => h x (List.mem_append_left _ hx)
    have hrest := quotedForms_congr rest fun x hx => h x (List.mem_append_right _ hx)
    simp only [quotedForms, hv, hrest]

theorem quotedEntries_congr : (es : List (Value × Value)) →
    (∀ x ∈ referencesEntries es, name x = name' x) → quotedEntries name es = quotedEntries name' es
  | [], _ => rfl
  | (k, v) :: rest, h => by
    have hk := quotedForm_congr k fun x hx => h x (by simp [referencesEntries, hx])
    have hv := quotedForm_congr v fun x hx => h x (by simp [referencesEntries, hx])
    have hrest := quotedEntries_congr rest fun x hx => h x (by simp [referencesEntries, hx])
    simp only [quotedEntries, hk, hv, hrest]

end

variable {r r' : Resolver}

mutual

theorem toText_congr : (v : Value) → r.Agree r' v.references → v.toText r = v.toText r'
  | fault kind args, h => by
    simp only [toText, toTexts_congr args h, quotedForms_congr args h.quoted]
  | reference (.builder id), h => h.statement id (by simp [references])
  | reference (.config id), h => h.quoted _ (by simp [references])
  | list items, h => quotedForm_congr (list items) h.quoted
  | tuple items, h => quotedForm_congr (tuple items) h.quoted
  | set items, h => quotedForm_congr (set items) h.quoted
  | dict entries, h => quotedForm_congr (dict entries) h.quoted
  | number v, h => quotedForm_congr (number v) h.quoted
  | quoted v, h => quotedForm_congr (quoted v) h.quoted
  | raw v, h => quotedForm_congr (raw v) h.quoted
  | column n a, h => quotedForm_congr (column n a) h.quoted
  | table s a q, h => quotedForm_congr (table s a q) h.quoted
  | order c d, h => quotedForm_congr (order c d) h.quoted
  | null, _ | bool _, _ | int _, _ | double _, _ | decimal _, _ | text _, _ | joinType _, _
  | direction _, _ | code _, _ | bytes _, _ | path _, _ | iterator _, _ | problem _, _ => rfl

theorem toTexts_congr : (vs : List Value) → r.Agree r' (referencesAll vs) →
    toTexts r vs = toTexts r' vs
  | [], _ => rfl
  | v :: rest, h => by
    obtain ⟨hv, hrest⟩ := Resolver.agree_append.mp h
    simp only [toTexts, toText_congr v hv, toTexts_congr rest hrest]

end

end Value

variable {r r' : Resolver}

theorem aliased_congr {base aliasName : Value} (hb : r.Agree r' base.references)
    (ha : r.Agree r' aliasName.references) :
    aliased r base aliasName = aliased r' base aliasName := by
  simp only [aliased, Value.toText_congr base hb, Value.toText_congr aliasName ha]

theorem Column.render_congr {c : Column} (hn : r.Agree r' c.name.references)
    (ha : r.Agree r' c.aliasName.references) : c.render r = c.render r' := aliased_congr hn ha

theorem Table.render_congr {t : Table} (h : r.Agree r' t.references) :
    t.render r = t.render r' := by
  obtain ⟨⟨hs, ha⟩, -⟩ := by simpa only [Table.references, Resolver.agree_append] using h
  unfold Table.render
  split
  · rw [Value.toText_congr t.source hs]
    cases t.source.toText r' with
    | ok s => exact aliased_congr (.nil r r') ha
    | error e => rfl
  · exact aliased_congr hs ha

theorem SortItem.render_congr {i : SortItem} (hc : r.Agree r' i.column.references)
    (hd : r.Agree r' i.direction.references) : i.render r = i.render r' := by
  unfold SortItem.render
  rw [Value.toText_congr i.column hc]
  cases inner : i.direction.inner with
  | error e => rfl
  | ok w =>
    have hw := Value.toText_congr w (hd.mono (Value.references_inner inner))
    show (if _ then _ else _ >>= fun c => w.toText r >>= _) = _
    rw [hw]
    rfl

namespace Value

theorem render_congr (v : Value) (h : r.Agree r' v.references) : v.render r = v.render r' := by
  cases v with
  | number v => simp only [render, toText_congr v h]
  | quoted v => simp only [render, toText_congr v h]
  | column n a =>
    obtain ⟨hn, ha⟩ := Resolver.agree_append.mp h
    exact Column.render_congr hn ha
  | table s a q => exact Table.render_congr h
  | order c d =>
    obtain ⟨hc, hd⟩ := Resolver.agree_append.mp h
    exact SortItem.render_congr hc hd
  | reference x =>
    cases x with
    | builder id => simp only [render, h.statement id (by simp [references])]
    | config id => rfl
  | _ => rfl

theorem toLiteral_congr (v : Value) (h : r.Agree r' v.references) :
    v.toLiteral r = v.toLiteral r' := by
  have text := toText_congr v h
  unfold toLiteral
  split <;> first | rfl | rw [text]

theorem toRaw_congr (v : Value) (h : r.Agree r' v.references) : v.toRaw r = v.toRaw r' := by
  unfold toRaw
  split
  · exact render_congr (number _) h
  · exact render_congr (quoted _) h
  · exact render_congr (raw _) h
  · rw [toText_congr v h]

theorem embedded_congr (v : Value) (h : r.Agree r' v.references) :
    v.embedded r = v.embedded r' := by
  unfold embedded
  split
  · rw [h.statement _ (by simp [references])]
  · rfl

theorem toDirection?_congr (v : Value) (h : r.Agree r' v.references) :
    v.toDirection? r = v.toDirection? r' := by
  unfold toDirection?
  split <;> first | rfl | rw [toText_congr v h]

theorem toSortItem?_congr (v : Value) (h : r.Agree r' v.references) :
    v.toSortItem? r = v.toSortItem? r' := by
  unfold toSortItem?
  split
  · rfl
  · split
    · rfl
    · split
      · rfl
      · next c d sequence =>
        rw [references_sequence? sequence, Resolver.agree_flatMap] at h
        rw [toDirection?_congr d (h d (by simp))]
      · rfl

end Value

namespace Clause

theorem render_congr (c : Clause) (h : r.Agree r' c.references) : c.render r = c.render r' := by
  cases c with
  | select columns =>
    have each : ∀ c ∈ columns, Column.render r c = Column.render r' c := by
      intro c hc
      obtain ⟨hn, ha⟩ := Resolver.agree_append.mp (Resolver.agree_flatMap.mp h c hc)
      exact Column.render_congr hn ha
    simp only [render, Outcome.mapM_congr each]
  | source target =>
    simp only [render, ← Table.render_congr h]
    cases shown : target.render r with
    | error e => rfl
    | ok v =>
      have hv := Value.toText_congr v (h.mono (Table.references_render shown))
      simp only [Outcome.ok_bind, sourceText, hv]
  | condition kind head parts => rfl
  | join joinType target left right =>
    obtain ⟨⟨ht, hl⟩, hr⟩ := by simpa only [references, Resolver.agree_append] using h
    simp only [render, ← Table.render_congr ht]
    cases shown : target.render r with
    | error e => rfl
    | ok v =>
      have hv := Value.toText_congr v (ht.mono (Table.references_render shown))
      simp only [Outcome.ok_bind, joinText, hv, Value.toText_text, Value.toText_congr left hl,
        Value.toText_congr right hr]
  | groupBy columns => rfl
  | orderBy items =>
    have each : ∀ i ∈ items, SortItem.render r i = SortItem.render r' i := by
      intro i hi
      obtain ⟨hc, hd⟩ := Resolver.agree_append.mp (Resolver.agree_flatMap.mp h i hi)
      exact SortItem.render_congr hc hd
    simp only [render, Outcome.mapM_congr each]
  | limit count offset =>
    obtain ⟨hc, ho⟩ := Resolver.agree_append.mp h
    simp only [render, limitText, Value.toText_congr count hc, Value.toText_congr offset ho]
  | union all query => simp only [render, unionText, Value.toText_congr query h]

end Clause

end SelectBuilder
