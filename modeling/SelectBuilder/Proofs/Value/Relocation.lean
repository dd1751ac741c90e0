import SelectBuilder.Proofs.Outcome
import SelectBuilder.Value.Relocation

/-!
# What relocation does not show

A value that is moved to other references is shown as before if these are shown like the old ones.
One thing may be lost on the way: an error is made anew, and the first of its further texts is gone.
A set of several items may lose its order as well, which relocation does not follow; values without
such sets are told apart.
-/
namespace SelectBuilder

open Outcome

def Reference.map (f g : Nat → Nat) : Reference → Reference
  | builder id => builder (f id)
  | config id => config (g id)

namespace Value

variable {F : Reference → Reference}

mutual

/-- A value and all that is inside it. -/
def parts : Value → List Value
  | list items => list items :: partsAll items
  | tuple items => tuple items :: partsAll items
  | set items => set items :: partsAll items
  | iterator items => iterator items :: partsAll items
  | dict entries => dict entries :: partsEntries entries
  | number v => number v :: v.parts
  | quoted v => quoted v :: v.parts
  | raw v => raw v :: v.parts
  | column n a => column n a :: (n.parts ++ a.parts)
  | table s a q => table s a q :: (s.parts ++ a.parts ++ q.parts)
  | order c d => order c d :: (c.parts ++ d.parts)
  | fault name args => fault name args :: partsAll args
  | v => [v]

def partsAll : List Value → List Value
  | [] => []
  | v :: rest => v.parts ++ partsAll rest

def partsEntries : List (Value × Value) → List Value
  | [] => []
  | (k, v) :: rest => k.parts ++ v.parts ++ partsEntries rest

end

/-- A problem may lose one of its texts when it is made anew. -/
def keepsText : Value → Bool
  | problem p => p.remade.text == p.text
  | _ => true

/-- A set of several items may show them in another order when it is made anew, and no two iterators
are shown alike. -/
def keepsForm : Value → Bool
  | set items => decide (items.length ≤ 1)
  | iterator _ => false
  | _ => true

/-- No problem inside the value reads differently when it is made anew. -/
def Stable (v : Value) : Prop := ∀ w ∈ v.parts, w.keepsText

/-- Nothing inside the value is shown differently for being made anew. -/
def Reproducible (v : Value) : Prop := ∀ w ∈ v.parts, w.keepsForm

mutual

@[simp] theorem references_relocate (F : Reference → Reference) :
    (v : Value) → (v.relocate F).references = v.references.map F
  | list items | tuple items | set items | iterator items | fault _ items => by
    simp only [relocate, references, referencesAll_relocate F items]
  | dict entries => by simp only [relocate, references, referencesEntries_relocate F entries]
  | number v | quoted v | raw v => by simp only [relocate, references, references_relocate F v]
  | column v w | order v w => by
    simp only [relocate, references, references_relocate F v, references_relocate F w,
      List.map_append]
  | table s a q => by
    simp only [relocate, references, references_relocate F s, references_relocate F a,
      references_relocate F q, List.map_append]
  | reference _ | null | bool _ | int _ | double _ | decimal _ | text _ | joinType _ | direction _
  | code _ | bytes _ | path _ | problem _ => rfl

theorem referencesAll_relocate (F : Reference → Reference) :
    (vs : List Value) → referencesAll (relocateAll F vs) = (referencesAll vs).map F
  | [] => rfl
  | v :: rest => by
    simp only [relocateAll, referencesAll, references_relocate F v, referencesAll_relocate F rest,
      List.map_append]

theorem referencesEntries_relocate (F : Reference → Reference) :
    (es : List (Value × Value)) →
      referencesEntries (relocateEntries F es) = (referencesEntries es).map F
  | [] => rfl
  | (k, v) :: rest => by
    simp only [relocateEntries, referencesEntries, references_relocate F k,
      references_relocate F v, referencesEntries_relocate F rest, List.map_append]

end

@[simp] theorem relocateEntries_eq_map (F : Reference → Reference) (es : List (Value × Value)) :
    relocateEntries F es = es.map fun e => (e.1.relocate F, e.2.relocate F) := by
  induction es with
  | nil => rfl
  | cons e rest ih => simp [relocateEntries, ih]

/-! ## The outside of a value -/

@[simp] theorem isNull_relocate (v : Value) : (v.relocate F).isNull = v.isNull := by
  cases v <;> rfl

@[simp] theorem content?_relocate (v : Value) : (v.relocate F).content? = v.content? := by
  cases v <;> rfl

@[simp] theorem isTrue_relocate (v : Value) : (v.relocate F).isTrue = v.isTrue := by
  cases v <;> simp [relocate, isTrue]

@[simp] theorem numeric?_relocate (v : Value) : (v.relocate F).numeric? = v.numeric? := by
  cases v <;> rfl

@[simp] theorem index?_relocate (v : Value) : (v.relocate F).index? = v.index? := by
  cases v <;> rfl

@[simp] theorem index_relocate (v : Value) : (v.relocate F).index = v.index := by
  simp [index]

theorem items?_relocate (v : Value) :
    (v.relocate F).items? = v.items?.map (List.map (relocate F)) := by
  cases v <;> simp [relocate, items?, content?]

theorem inner?_relocate (v : Value) : (v.relocate F).inner? = v.inner?.map (relocate F) := by
  cases v with
  | fault name args =>
    by_cases stop : name = "StopIteration"
    · subst stop
      cases args <;> simp [relocate, inner?]
    · simp [relocate, inner?, stop]
  | _ => rfl

theorem inner_relocate (v : Value) : (v.relocate F).inner = v.inner.map (relocate F) := by
  unfold inner
  rw [inner?_relocate]
  cases v.inner? <;> rfl

end Value

namespace Fault

variable {F : Reference → Reference}

theorem operandFile?_relocate (place : Nat) (args : List Value) :
    operandFile? place (args.map (Value.relocate F)) =
      (operandFile? place args).map (Value.relocate F) := by
  unfold operandFile? isDetailed
  simp only [List.length_map, List.getElem?_map]
  split
  · cases args[place]? with
    | none => rfl
    | some v => cases null : v.isNull <;> simp [null]
  · rfl

theorem isCount_relocate (name : String) (v : Value) :
    isCount name (v.relocate F) = isCount name v := by
  simp [isCount]

theorem file?_relocate (name : String) (args : List Value) :
    file? name (args.map (Value.relocate F)) = (file? name args).map (Value.relocate F) := by
  unfold file?
  rw [operandFile?_relocate]
  cases operandFile? 2 args with
  | none => rfl
  | some v => cases count : isCount name v <;> simp [isCount_relocate, count]

theorem secondFile?_relocate (name : String) (args : List Value) :
    secondFile? name (args.map (Value.relocate F)) =
      (secondFile? name args).map (Value.relocate F) := by
  unfold secondFile?
  rw [file?_relocate, operandFile?_relocate]
  cases file? name args <;> rfl

theorem shownCount_relocate (name : String) (args : List Value) :
    shownCount name (args.map (Value.relocate F)) = shownCount name args := by
  simp [shownCount, file?_relocate]

theorem location?_relocate (args : List Value) :
    location? (args.map (Value.relocate F)) =
      (location? args).map (List.map (Value.relocate F)) := by
  match args with
  | [_, details] => exact Value.items?_relocate details
  | [] | [_] | _ :: _ :: _ :: _ => rfl

theorem detail?_relocate (place : Nat) (args : List Value) :
    detail? place (args.map (Value.relocate F)) = (detail? place args).map (Value.relocate F) := by
  unfold detail?
  rw [location?_relocate]
  cases location? args with
  | none => rfl
  | some items =>
    simp only [Option.map_some, Option.bind_some, List.getElem?_map]
    cases items[place]? with
    | none => rfl
    | some v => cases null : v.isNull <;> simp [null]

theorem systemText_relocate (name : String) (args : List Value)
    (texts forms : List (Outcome String)) :
    systemText name (args.map (Value.relocate F)) texts forms =
      systemText name args texts forms := by
  unfold systemText
  rw [file?_relocate, secondFile?_relocate]
  simp only [isDetailed, List.length_map]
  cases file? name args <;> cases secondFile? name args <;> rfl

theorem locatedText_relocate (args : List Value) (texts : List (Outcome String)) :
    locatedText (args.map (Value.relocate F)) texts = locatedText args texts := by
  have file : ((detail? 0 args).map (Value.relocate F)).bind Value.content? =
      (detail? 0 args).bind Value.content? := by
    cases detail? 0 args <;> simp
  have line : ((detail? 1 args).map (Value.relocate F)).bind lineText? =
      (detail? 1 args).bind lineText? := by
    cases detail? 1 args with
    | none => rfl
    | some v => cases v <;> rfl
  simp only [locatedText, detail?_relocate, file, line]

theorem codingText_relocate (args : List Value) (texts : List (Outcome String)) :
    codingText (args.map (Value.relocate F)) texts = codingText args texts := by
  match args with
  | [] | [_] => rfl
  | [_, object] | [_, object, _] | _ :: object :: _ :: _ :: _ :: _ :: _ => cases object <;> rfl
  | [object, first, last, reason] =>
    cases first <;>
      simp only [List.map_cons, List.map_nil, Value.relocate, codingText, Value.content?_relocate,
        Value.index_relocate] <;>
      rfl
  | [_, object, first, last, _] =>
    cases object <;>
      simp only [List.map_cons, List.map_nil, Value.relocate, codingText, Value.index_relocate] <;>
      rfl

theorem members_relocate (args : List Value) :
    (members (args.map (Value.relocate F))).length = (members args).length := by
  match args with
  | [] | [_] => rfl
  | [_, listed] => cases listed <;> simp [members, Value.relocate]
  | _ :: listed :: _ :: _ => cases listed <;> rfl

/-- The wording of a fault depends on the outside of its operands alone, once their texts and
quoted forms are given. -/
theorem text_relocate (name : String) (args : List Value) (texts forms : List (Outcome String)) :
    text name (args.map (Value.relocate F)) texts forms = text name args texts forms := by
  simp only [text, systemText_relocate, locatedText_relocate, codingText_relocate, groupText,
    members_relocate]

end Fault

namespace Value

variable {F : Reference → Reference} {name name' : Reference → Outcome String}

mutual

theorem quotedForm_relocate : (v : Value) → (∀ x ∈ v.references, name x = name' (F x)) →
    quotedForm name v = quotedForm name' (v.relocate F)
  | list items, h => by simp only [relocate, quotedForm, quotedForms_relocate items h]
  | tuple items, h => by simp only [relocate, quotedForm, quotedForms_relocate items h]
  | set items, h => by simp only [relocate, quotedForm, quotedForms_relocate items h]
  | dict entries, h => by simp only [relocate, quotedForm, quotedEntries_relocate entries h]
  | number v, h => by simp only [relocate, quotedForm, quotedForm_relocate v h]
  | quoted v, h => by simp only [relocate, quotedForm, quotedForm_relocate v h]
  | raw v, h => by simp only [relocate, quotedForm, quotedForm_relocate v h]
  | column n a, h => by
    have hn := quotedForm_relocate n fun x hx => h x (by simp [references, hx])
    have ha := quotedForm_relocate a fun x hx => h x (by simp [references, hx])
    simp only [relocate, quotedForm, hn, ha]
  | table s a q, h => by
    have hs := quotedForm_relocate s fun x hx => h x (by simp [references, hx])
    have ha := quotedForm_relocate a fun x hx => h x (by simp [references, hx])
    have hq := quotedForm_relocate q fun x hx => h x (by simp [references, hx])
    simp only [relocate, quotedForm, hs, ha, hq]
  | order c d, h => by
    have hc := quotedForm_relocate c fun x hx => h x (by simp [references, hx])
    have hd := quotedForm_relocate d fun x hx => h x (by simp [references, hx])
    simp only [relocate, quotedForm, hc, hd]
  | fault kind args, h => by
    simp only [relocate, quotedForm, quotedForms_relocate args h, relocateAll_eq_map,
      Fault.shownCount_relocate]
  | reference r, h => h r (by simp [references])
  | problem p, _ => rfl
  | null, _ | bool _, _ | int _, _ | double _, _ | decimal _, _ | text _, _ | joinType _, _
  | direction _, _ | code _, _ | bytes _, _ | path _, _ | iterator _, _ => rfl

theorem quotedForms_relocate : (vs : List Value) → (∀ x ∈ referencesAll vs, name x = name' (F x)) →
    quotedForms name vs = quotedForms name' (relocateAll F vs)
  | [], _ => rfl
  | v :: rest, h => by
    have hv := quotedForm_relocate v fun x hx => h x (List.mem_append_left _ hx)
    have hrest := quotedForms_relocate rest fun x hx => h x (List.mem_append_right _ hx)
    simp only [relocateAll, quotedForms, hv, hrest]

theorem quotedEntries_relocate : (es : List (Value × Value)) →
    (∀ x ∈ referencesEntries es, name x = name' (F x)) →
    quotedEntries name es = quotedEntries name' (relocateEntries F es)
  | [], _ => rfl
  | (k, v) :: rest, h => by
    have hk := quotedForm_relocate k fun x hx => h x (by simp [referencesEntries, hx])
    have hv := quotedForm_relocate v fun x hx => h x (by simp [referencesEntries, hx])
    have hrest := quotedEntries_relocate rest fun x hx => h x (by simp [referencesEntries, hx])
    simp only [relocateEntries, quotedEntries, hk, hv, hrest]

end

end Value

/-- A reference is shown by one resolver as its new place is by another one. -/
structure Resolver.Mirrors (f g : Nat → Nat) (r r' : Resolver) (x : Reference) : Prop where
  statement : ∀ id, x = .builder id → r.statement id = r'.statement (f id)
  quoted : r.quoted x = r'.quoted (x.map f g)

variable {f g : Nat → Nat} {r r' : Resolver}

namespace Value

mutual

theorem toText_relocate : (v : Value) → v.Stable → (∀ x ∈ v.references, r.Mirrors f g r' x) →
    v.toText r = (v.relocate (Reference.map f g)).toText r'
  | fault kind args, stable, h => by
    have inside := (List.forall_mem_cons.mp stable).2
    simp only [relocate, toText, toTexts_relocate args inside h,
      quotedForms_relocate args fun x hx => (h x hx).quoted, relocateAll_eq_map,
      Fault.text_relocate]
  | reference (.builder id), _, h => (h _ (by simp [references])).statement id rfl
  | reference (.config id), _, h => (h _ (by simp [references])).quoted
  | problem p, stable, _ => congrArg Except.ok (beq_iff_eq.mp (stable _ List.mem_cons_self)).symm
  | list items, _, h => quotedForm_relocate (list items) fun x hx => (h x hx).quoted
  | tuple items, _, h => quotedForm_relocate (tuple items) fun x hx => (h x hx).quoted
  | set items, _, h => quotedForm_relocate (set items) fun x hx => (h x hx).quoted
  | dict entries, _, h => quotedForm_relocate (dict entries) fun x hx => (h x hx).quoted
  | number v, _, h => quotedForm_relocate (number v) fun x hx => (h x hx).quoted
  | quoted v, _, h => quotedForm_relocate (quoted v) fun x hx => (h x hx).quoted
  | raw v, _, h => quotedForm_relocate (raw v) fun x hx => (h x hx).quoted
  | column n a, _, h => quotedForm_relocate (column n a) fun x hx => (h x hx).quoted
  | table s a q, _, h => quotedForm_relocate (table s a q) fun x hx => (h x hx).quoted
  | order c d, _, h => quotedForm_relocate (order c d) fun x hx => (h x hx).quoted
  | null, _, _ | bool _, _, _ | int _, _, _ | double _, _, _ | decimal _, _, _ | text _, _, _
  | joinType _, _, _ | direction _, _, _ | code _, _, _ | bytes _, _, _ | path _, _, _
  | iterator _, _, _ => rfl

theorem toTexts_relocate : (vs : List Value) → (∀ w ∈ partsAll vs, w.keepsText) →
    (∀ x ∈ referencesAll vs, r.Mirrors f g r' x) →
    toTexts r vs = toTexts r' (relocateAll (Reference.map f g) vs)
  | [], _, _ => rfl
  | v :: rest, stable, h => by
    obtain ⟨sv, srest⟩ := List.forall_mem_append.mp stable
    obtain ⟨hv, hrest⟩ := List.forall_mem_append.mp h
    simp only [relocateAll, toTexts, toText_relocate v sv hv, toTexts_relocate rest srest hrest]

end

end Value

end SelectBuilder
