import SelectBuilder.Proofs.Value.Mapping
import SelectBuilder.Proofs.Value.Relocation

/-!
# Values under other references

What a value is but for the identity of the objects that it refers to. Other than in a value that is
moved, nothing is made anew: a renamed value has the text of the old one, whatever is inside.
-/
namespace SelectBuilder

namespace Value

mutual

def rename (F : Reference → Reference) : Value → Value
  | list items => list (renameAll F items)
  | tuple items => tuple (renameAll F items)
  | set items => set (renameAll F items)
  | iterator items => iterator (renameAll F items)
  | dict entries => dict (renameEntries F entries)
  | number v => number (v.rename F)
  | quoted v => quoted (v.rename F)
  | raw v => raw (v.rename F)
  | column n a => column (n.rename F) (a.rename F)
  | table s a q => table (s.rename F) (a.rename F) (q.rename F)
  | order c d => order (c.rename F) (d.rename F)
  | fault name args => fault name (renameAll F args)
  | reference r => reference (F r)
  | v => v

def renameAll (F : Reference → Reference) : List Value → List Value
  | [] => []
  | v :: rest => v.rename F :: renameAll F rest

def renameEntries (F : Reference → Reference) : List (Value × Value) → List (Value × Value)
  | [] => []
  | (k, v) :: rest => (k.rename F, v.rename F) :: renameEntries F rest

end

@[simp] theorem renameAll_eq_map (F : Reference → Reference) (vs : List Value) :
    renameAll F vs = vs.map (rename F) := by
  induction vs with
  | nil => rfl
  | cons v rest ih => simp [renameAll, ih]

variable {F G : Reference → Reference}

/-! ## Renaming and moving -/

mutual

/-- To move a renamed value is to move the value. -/
theorem relocate_rename : (v : Value) → (v.rename F).relocate G = v.relocate fun x => G (F x)
  | list items | tuple items | set items | iterator items | fault _ items => by
    simp only [rename, relocate, relocateAll_renameAll items]
  | dict entries => by simp only [rename, relocate, relocateEntries_renameEntries entries]
  | number v | quoted v | raw v => by simp only [rename, relocate, relocate_rename v]
  | column v w | order v w => by
    simp only [rename, relocate, relocate_rename v, relocate_rename w]
  | table s a q => by
    simp only [rename, relocate, relocate_rename s, relocate_rename a, relocate_rename q]
  | reference _ | null | bool _ | int _ | double _ | decimal _ | text _ | joinType _ | direction _
  | code _ | bytes _ | path _ | problem _ => rfl

theorem relocateAll_renameAll :
    (vs : List Value) → relocateAll G (renameAll F vs) = relocateAll (fun x => G (F x)) vs
  | [] => rfl
  | v :: rest => by
    simp only [renameAll, relocateAll, relocate_rename v, relocateAll_renameAll rest]

theorem relocateEntries_renameEntries : (es : List (Value × Value)) →
    relocateEntries G (renameEntries F es) = relocateEntries (fun x => G (F x)) es
  | [] => rfl
  | (k, v) :: rest => by
    simp only [renameEntries, relocateEntries, relocate_rename k, relocate_rename v,
      relocateEntries_renameEntries rest]

end

mutual

/-- To rename a moved value is to move the value somewhere else. -/
theorem rename_relocate : (v : Value) → (v.relocate F).rename G = v.relocate fun x => G (F x)
  | list items | tuple items | set items | iterator items | fault _ items => by
    simp only [rename, relocate, renameAll_relocateAll items]
  | dict entries => by simp only [rename, relocate, renameEntries_relocateEntries entries]
  | number v | quoted v | raw v => by simp only [rename, relocate, rename_relocate v]
  | column v w | order v w => by
    simp only [rename, relocate, rename_relocate v, rename_relocate w]
  | table s a q => by
    simp only [rename, relocate, rename_relocate s, rename_relocate a, rename_relocate q]
  | reference _ | null | bool _ | int _ | double _ | decimal _ | text _ | joinType _ | direction _
  | code _ | bytes _ | path _ | problem _ => rfl

theorem renameAll_relocateAll :
    (vs : List Value) → renameAll G (relocateAll F vs) = relocateAll (fun x => G (F x)) vs
  | [] => rfl
  | v :: rest => by
    simp only [renameAll, relocateAll, rename_relocate v, renameAll_relocateAll rest]

theorem renameEntries_relocateEntries : (es : List (Value × Value)) →
    renameEntries G (relocateEntries F es) = relocateEntries (fun x => G (F x)) es
  | [] => rfl
  | (k, v) :: rest => by
    simp only [renameEntries, relocateEntries, rename_relocate k, rename_relocate v,
      renameEntries_relocateEntries rest]

end

mutual

/-- A value in which nothing is renamed stays as it is. -/
theorem rename_eq_self : (v : Value) → (∀ x ∈ v.references, F x = x) → v.rename F = v
  | list items, h | tuple items, h | set items, h | iterator items, h | fault _ items, h => by
    simp only [rename, renameAll_eq_self items h]
  | dict entries, h => by simp only [rename, renameEntries_eq_self entries h]
  | number v, h | quoted v, h | raw v, h => by simp only [rename, rename_eq_self v h]
  | column v w, h | order v w, h => by
    obtain ⟨hv, hw⟩ := List.forall_mem_append.mp h
    simp only [rename, rename_eq_self v hv, rename_eq_self w hw]
  | table s a q, h => by
    obtain ⟨hsa, hq⟩ := List.forall_mem_append.mp h
    obtain ⟨hs, ha⟩ := List.forall_mem_append.mp hsa
    simp only [rename, rename_eq_self s hs, rename_eq_self a ha, rename_eq_self q hq]
  | reference x, h => congrArg reference (h x (List.mem_singleton_self x))
  | null, _ | bool _, _ | int _, _ | double _, _ | decimal _, _ | text _, _ | joinType _, _
  | direction _, _ | code _, _ | bytes _, _ | path _, _ | problem _, _ => rfl

theorem renameAll_eq_self :
    (vs : List Value) → (∀ x ∈ referencesAll vs, F x = x) → renameAll F vs = vs
  | [], _ => rfl
  | v :: rest, h => by
    obtain ⟨hv, hrest⟩ := List.forall_mem_append.mp h
    simp only [renameAll, rename_eq_self v hv, renameAll_eq_self rest hrest]

theorem renameEntries_eq_self : (es : List (Value × Value)) →
    (∀ x ∈ referencesEntries es, F x = x) → renameEntries F es = es
  | [], _ => rfl
  | (k, v) :: rest, h => by
    obtain ⟨hkv, hrest⟩ := List.forall_mem_append.mp h
    obtain ⟨hk, hv⟩ := List.forall_mem_append.mp hkv
    simp only [renameEntries, rename_eq_self k hk, rename_eq_self v hv,
      renameEntries_eq_self rest hrest]

end

mutual

/-- Where a value is moved to matters only for what it refers to. -/
theorem relocate_congr : (v : Value) → (∀ x ∈ v.references, F x = G x) →
    v.relocate F = v.relocate G
  | list items, h | tuple items, h | set items, h | iterator items, h | fault _ items, h => by
    simp only [relocate, relocateAll_congr items h]
  | dict entries, h => by simp only [relocate, relocateEntries_congr entries h]
  | number v, h | quoted v, h | raw v, h => by simp only [relocate, relocate_congr v h]
  | column v w, h | order v w, h => by
    obtain ⟨hv, hw⟩ := List.forall_mem_append.mp h
    simp only [relocate, relocate_congr v hv, relocate_congr w hw]
  | table s a q, h => by
    obtain ⟨hsa, hq⟩ := List.forall_mem_append.mp h
    obtain ⟨hs, ha⟩ := List.forall_mem_append.mp hsa
    simp only [relocate, relocate_congr s hs, relocate_congr a ha, relocate_congr q hq]
  | reference x, h => congrArg reference (h x (List.mem_singleton_self x))
  | null, _ | bool _, _ | int _, _ | double _, _ | decimal _, _ | text _, _ | joinType _, _
  | direction _, _ | code _, _ | bytes _, _ | path _, _ | problem _, _ => rfl

theorem relocateAll_congr : (vs : List Value) → (∀ x ∈ referencesAll vs, F x = G x) →
    relocateAll F vs = relocateAll G vs
  | [], _ => rfl
  | v :: rest, h => by
    obtain ⟨hv, hrest⟩ := List.forall_mem_append.mp h
    simp only [relocateAll, relocate_congr v hv, relocateAll_congr rest hrest]

theorem relocateEntries_congr : (es : List (Value × Value)) →
    (∀ x ∈ referencesEntries es, F x = G x) → relocateEntries F es = relocateEntries G es
  | [], _ => rfl
  | (k, v) :: rest, h => by
    obtain ⟨hkv, hrest⟩ := List.forall_mem_append.mp h
    obtain ⟨hk, hv⟩ := List.forall_mem_append.mp hkv
    simp only [relocateEntries, relocate_congr k hk, relocate_congr v hv,
      relocateEntries_congr rest hrest]

end

/-! ## The outside of a renamed value -/

@[simp] theorem isNull_rename (v : Value) : (v.rename F).isNull = v.isNull := by
  rw [← isNull_relocate (F := id) (v.rename F), relocate_rename, isNull_relocate]

@[simp] theorem isTrue_rename (v : Value) : (v.rename F).isTrue = v.isTrue := by
  rw [← isTrue_relocate (F := id) (v.rename F), relocate_rename, isTrue_relocate]

@[simp] theorem content?_rename (v : Value) : (v.rename F).content? = v.content? := by
  rw [← content?_relocate (F := id) (v.rename F), relocate_rename, content?_relocate]

theorem inner?_rename (v : Value) : (v.rename F).inner? = v.inner?.map (rename F) := by
  cases v with
  | fault name args =>
    by_cases stop : name = "StopIteration"
    · subst stop
      cases args <;> simp [rename, inner?]
    · simp [rename, inner?, stop]
  | _ => rfl

theorem inner_rename (v : Value) : (v.rename F).inner = v.inner.map (rename F) := by
  unfold inner
  rw [inner?_rename]
  cases v.inner? <;> rfl

theorem faithful_rename (F : Reference → Reference) : Faithful (rename F) where
  isNull := isNull_rename
  isTrue := isTrue_rename
  content := content?_rename
  inner := inner_rename
  text _ := rfl

/-! ## The text of a renamed value -/

/-- The quoted form of a value is that of the moved value, and so is that of the renamed value. -/
theorem quotedForm_rename {name name' : Reference → Outcome String} (v : Value)
    (h : ∀ x ∈ v.references, name x = name' (F x)) :
    quotedForm name v = quotedForm name' (v.rename F) := by
  have moved : quotedForm name' (v.rename F) = quotedForm name' (v.relocate F) := by
    rw [quotedForm_relocate (F := id) (v.rename F) fun _ _ => rfl, relocate_rename]
    rfl
  rw [moved]
  exact quotedForm_relocate v h

theorem quotedForms_rename {name name' : Reference → Outcome String} (vs : List Value)
    (h : ∀ x ∈ referencesAll vs, name x = name' (F x)) :
    quotedForms name vs = quotedForms name' (renameAll F vs) := by
  rw [quotedForms_eq_map, quotedForms_eq_map, renameAll_eq_map, List.map_map]
  rw [referencesAll_eq_flatMap] at h
  exact List.map_congr_left fun v hv =>
    quotedForm_rename v fun x hx => h x (List.mem_flatMap.mpr ⟨v, hv, hx⟩)

theorem text_rename (kind : String) (args : List Value) (texts forms : List (Outcome String)) :
    Fault.text kind (renameAll F args) texts forms = Fault.text kind args texts forms := by
  rw [← Fault.text_relocate (F := id) kind (renameAll F args), ← relocateAll_eq_map,
    relocateAll_renameAll, relocateAll_eq_map, Fault.text_relocate]

variable {f g : Nat → Nat} {r r' : Resolver}

mutual

theorem toText_rename : (v : Value) → (∀ x ∈ v.references, r.Mirrors f g r' x) →
    v.toText r = (v.rename (Reference.map f g)).toText r'
  | fault kind args, h => by
    simp only [rename, toText, toTexts_rename args h,
      quotedForms_rename args fun x hx => (h x hx).quoted, text_rename]
  | reference (.builder id), h => (h _ (List.mem_singleton_self _)).statement id rfl
  | reference (.config id), h => (h _ (List.mem_singleton_self _)).quoted
  | list items, h => quotedForm_rename (list items) fun x hx => (h x hx).quoted
  | tuple items, h => quotedForm_rename (tuple items) fun x hx => (h x hx).quoted
  | set items, h => quotedForm_rename (set items) fun x hx => (h x hx).quoted
  | dict entries, h => quotedForm_rename (dict entries) fun x hx => (h x hx).quoted
  | number v, h => quotedForm_rename (number v) fun x hx => (h x hx).quoted
  | quoted v, h => quotedForm_rename (quoted v) fun x hx => (h x hx).quoted
  | raw v, h => quotedForm_rename (raw v) fun x hx => (h x hx).quoted
  | column n a, h => quotedForm_rename (column n a) fun x hx => (h x hx).quoted
  | table s a q, h => quotedForm_rename (table s a q) fun x hx => (h x hx).quoted
  | order c d, h => quotedForm_rename (order c d) fun x hx => (h x hx).quoted
  | null, _ | bool _, _ | int _, _ | double _, _ | decimal _, _ | text _, _ | joinType _, _
  | direction _, _ | code _, _ | bytes _, _ | path _, _ | problem _, _ | iterator _, _ => rfl

theorem toTexts_rename : (vs : List Value) → (∀ x ∈ referencesAll vs, r.Mirrors f g r' x) →
    toTexts r vs = toTexts r' (renameAll (Reference.map f g) vs)
  | [], _ => rfl
  | v :: rest, h => by
    obtain ⟨hv, hrest⟩ := List.forall_mem_append.mp h
    simp only [renameAll, toTexts, toText_rename v hv, toTexts_rename rest hrest]

end

end Value

end SelectBuilder
