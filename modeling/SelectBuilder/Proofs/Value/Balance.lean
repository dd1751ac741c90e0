import SelectBuilder.Proofs.Text.Balance
import SelectBuilder.Proofs.Value.Relocation
import SelectBuilder.Value.Descriptor

/-!
# Balanced values

A value is balanced if all texts inside it are. Then it has a text and a quoted form, and these are
balanced as well: what a form adds to the parts of a value is closed where it is opened.
-/
namespace SelectBuilder

open Outcome Text

/-! ## Numbers -/

namespace Number

@[simp] theorem parens_digits (n : Nat) : parens (digits n) = [] :=
  parens_toDigits (by decide) (by decide) n

theorem parens_take {cs : List Char} (none : parens cs = []) (n : Nat) : parens (cs.take n) = [] :=
  parens_of_subset none (List.take_subset n cs)

theorem parens_drop {cs : List Char} (none : parens cs = []) (n : Nat) : parens (cs.drop n) = [] :=
  parens_of_subset none (List.drop_subset n cs)

theorem parens_tail {cs : List Char} (none : parens cs = []) : parens cs.tail = [] :=
  parens_of_subset none (List.tail_subset cs)

@[simp] theorem parens_zeros (n : Nat) : parens (List.replicate n '0') = [] :=
  parens_replicate (by decide) n

theorem parens_padLeft {cs : List Char} (none : parens cs = []) (width : Nat) :
    parens (padLeft '0' width cs) = [] := by
  simp [padLeft, none]

theorem intText_balanced (i : Int) : Balanced (intText i) := by
  have natText (n : Nat) : Balanced (natText n) := balanced_ofList (parens_digits n)
  cases i with
  | ofNat n => exact natText n
  | negSucc n => exact (by decide : Balanced "-").append (natText (n + 1))

theorem Decimal.text_balanced (d : Decimal) : Balanced d.text := by
  refine balanced_ofList ?_
  have sign (negative : Bool) : parens (signChars negative) = [] := by cases negative <;> rfl
  have power (e : Int) : parens (exponentChars e) = [] := by
    unfold exponentChars
    split <;> simp
  cases d with
  | nan signaling negative payload =>
    have shown : parens (if payload = 0 then [] else digits payload) = [] := by
      split <;> simp
    cases signaling <;> simp [chars, sign, shown]
  | infinite negative => simp [chars, sign]
  | finite negative c e =>
    simp only [chars, parens_append, sign, List.nil_append, finiteChars]
    split
    · split <;> simp [parens_padLeft, parens_take, parens_drop]
    · split <;> simp [parens_take, parens_tail, power]

theorem parens_positional {ds : List Char} (none : parens ds = []) (order : Int) :
    parens (positional ds order) = [] := by
  unfold positional
  split
  · simp [none]
  · dsimp only
    split <;> simp [none, parens_take, parens_drop]

theorem Double.text_balanced (x : Double) : Balanced x.text := by
  cases x with
  | nan => decide
  | infinite negative => cases negative <;> decide
  | finite negative m e =>
    have power (order : Int) : parens (FloatStyle.plain.exponentChars order) = [] := by
      have sign : parens (if order < 0 then ['-'] else ['+']) = [] := by split <;> rfl
      simp [FloatStyle.exponentChars, FloatStyle.plain, parens_padLeft, sign]
    have body : parens (FloatStyle.plain.finiteChars m e) = [] := by
      unfold FloatStyle.finiteChars
      split
      · rfl
      · dsimp only
        split
        · exact parens_positional (parens_digits _) _
        · split <;> simp [parens_take, parens_tail, power]
    refine balanced_ofList ?_
    rw [parens_append, body]
    cases negative <;> rfl

end Number

/-! ## Words -/

theorem JoinType.word_balanced (t : JoinType) : Balanced t.word := by cases t <;> decide

theorem SortDirection.word_balanced (d : SortDirection) : Balanced d.word := by cases d <;> decide

theorem ErrorCode.name_balanced (c : ErrorCode) : Balanced c.name :=
  BalancedChars.of_parens_nil (by cases c <;> decide +kernel)

theorem ErrorCode.label_balanced (c : ErrorCode) : Balanced c.label :=
  BalancedChars.of_parens_nil (by cases c <;> decide +kernel)

/-! ## Texts that show structure -/

/-- There is a text, and it is balanced. -/
def Outcome.BalancedText (m : Outcome String) : Prop := ∃ t, m = .ok t ∧ Balanced t

theorem Outcome.BalancedText.mapM {items : List (Outcome String)}
    (h : ∀ m ∈ items, BalancedText m) :
    ∃ ts, items.mapM id = .ok ts ∧ ∀ t ∈ ts, Balanced t :=
  exists_mapM h

namespace Value

theorem balanced_boolText (b : Bool) : Balanced (boolText b) := by cases b <;> decide

theorem memberText_balanced {kind name shown : String} (hk : Balanced kind) (hn : Balanced name)
    (hs : Balanced shown) : Balanced (memberText kind name shown) := by
  have named : Balanced ("<" ++ kind ++ "." ++ name) :=
    (((by decide : Balanced "<").append hk).append (by decide)).append hn
  exact ((named.append (by decide)).append hs).append (by decide)

/-- A member of a vocabulary is shown with its word in quotes. -/
theorem wordText_balanced {kind word : String} (hk : Balanced kind) (hw : Balanced word) :
    Balanced (memberText kind word ("'" ++ word ++ "'")) :=
  memberText_balanced hk hw (((by decide : Balanced "'").append hw).append (by decide))

theorem enclosed_balanced {left right : String} {items : List (Outcome String)}
    (around : Balanced (left ++ right)) (h : ∀ m ∈ items, BalancedText m) :
    BalancedText (enclosed left right items) := by
  obtain ⟨ts, made, each⟩ := BalancedText.mapM h
  have inside : Balanced (String.intercalate ", " ts) := .intercalate (by decide) each
  exact ⟨_, by rw [enclosed, made]; rfl, around.insert inside⟩

theorem callText_balanced {name : String} {args : List (Outcome String)} (h : Balanced name)
    (each : ∀ m ∈ args, BalancedText m) : BalancedText (callText name args) := by
  refine enclosed_balanced ?_ each
  rw [String.append_assoc]
  exact h.append (by decide)

theorem field_balanced {key : String} {value : Outcome String} (h : Balanced key)
    (h' : BalancedText value) : Balanced (key, value).1 ∧ BalancedText (key, value).2 := ⟨h, h'⟩

theorem fieldsText_balanced {name : String} {fields : List (String × Outcome String)}
    (h : Balanced name) (each : ∀ f ∈ fields, Balanced f.1 ∧ BalancedText f.2) :
    BalancedText (fieldsText name fields) := by
  refine callText_balanced h fun m hm => ?_
  obtain ⟨f, hf, rfl⟩ := List.mem_map.mp hm
  obtain ⟨key, t, text, balanced⟩ := each f hf
  exact ⟨_, by rw [text]; rfl, (key.append (by decide)).append balanced⟩

theorem setText_balanced {items : List (Outcome String)} (h : ∀ m ∈ items, BalancedText m) :
    BalancedText (setText items) := by
  unfold setText
  split
  · exact ⟨_, rfl, by decide⟩
  · exact enclosed_balanced (by decide) h

theorem tupleText_balanced {items : List (Outcome String)} (h : ∀ m ∈ items, BalancedText m) :
    BalancedText (tupleText items) := by
  unfold tupleText
  split <;> exact enclosed_balanced (by decide) h

theorem entryText_balanced {key value : Outcome String} (h : BalancedText key)
    (h' : BalancedText value) : BalancedText (entryText key value) := by
  obtain ⟨k, rfl, hk⟩ := h
  obtain ⟨v, rfl, hv⟩ := h'
  exact ⟨_, rfl, (hk.append (by decide)).append hv⟩

/-! ## Balanced values -/

mutual

/-- A value made of texts, numbers and members of the vocabularies, in which every text is
balanced. It holds no statement, no settings and no error. -/
def Balanced : Value → Prop
  | null => True
  | bool _ => True
  | int _ => True
  | double _ => True
  | decimal _ => True
  | text s => Text.Balanced s ∧ Text.Proper s
  | joinType _ => True
  | direction _ => True
  | code _ => True
  | list items => AllBalanced items
  | tuple items => AllBalanced items
  | set items => AllBalanced items
  | iterator items => AllBalanced items
  | dict entries => EntriesBalanced entries
  | number v => v.Balanced
  | quoted v => v.Balanced
  | raw v => v.Balanced
  | column n a => n.Balanced ∧ a.Balanced
  | table s a q => s.Balanced ∧ a.Balanced ∧ q.Balanced
  | order c d => c.Balanced ∧ d.Balanced
  | _ => False

def AllBalanced : List Value → Prop
  | [] => True
  | v :: rest => v.Balanced ∧ AllBalanced rest

def EntriesBalanced : List (Value × Value) → Prop
  | [] => True
  | (k, v) :: rest => k.Balanced ∧ v.Balanced ∧ EntriesBalanced rest

end

@[simp] theorem allBalanced_iff {vs : List Value} : AllBalanced vs ↔ ∀ v ∈ vs, v.Balanced := by
  induction vs with
  | nil => simp [AllBalanced]
  | cons v rest ih => simp [AllBalanced, ih]

theorem EntriesBalanced.keys {es : List (Value × Value)} (h : EntriesBalanced es) :
    ∀ e ∈ es, e.1.Balanced := by
  induction es with
  | nil => exact nofun
  | cons e rest ih => exact List.forall_mem_cons.mpr ⟨h.1, ih h.2.2⟩

mutual

theorem quotedForm_balanced (name : Reference → Outcome String) :
    (v : Value) → v.Balanced → BalancedText (quotedForm name v)
  | null, _ => ⟨_, rfl, by decide⟩
  | bool b, _ => ⟨_, rfl, balanced_boolText b⟩
  | int i, _ => ⟨_, rfl, Number.intText_balanced i⟩
  | double x, _ => ⟨_, rfl, x.text_balanced⟩
  | decimal d, _ => by
    refine callText_balanced (by decide) fun m hm => ?_
    obtain rfl := List.mem_singleton.mp hm
    exact ⟨_, rfl, ((by decide : Text.Balanced "'").append d.text_balanced).append (by decide)⟩
  | text s, h => ⟨_, rfl, balanced_quoted h.2 h.1⟩
  | joinType t, _ => ⟨_, rfl, wordText_balanced (by decide) t.word_balanced⟩
  | direction d, _ => ⟨_, rfl, wordText_balanced (by decide) d.word_balanced⟩
  | code c, _ =>
    ⟨_, rfl, memberText_balanced (by decide) c.name_balanced (Number.intText_balanced c.number)⟩
  | list items, h => enclosed_balanced (by decide) (quotedForms_balanced name items h)
  | tuple items, h => tupleText_balanced (quotedForms_balanced name items h)
  | set items, h => setText_balanced (quotedForms_balanced name items h)
  | dict entries, h => enclosed_balanced (by decide) (quotedEntries_balanced name entries h)
  | iterator _, _ => ⟨_, rfl, by decide⟩
  | number v, h | quoted v, h | raw v, h => by
    refine fieldsText_balanced (by decide) (List.forall_mem_cons.mpr ⟨?_, nofun⟩)
    exact field_balanced (by decide) (quotedForm_balanced name v h)
  | column n a, h => by
    refine fieldsText_balanced (by decide) ?_
    refine List.forall_mem_cons.mpr ⟨?_, List.forall_mem_cons.mpr ⟨?_, nofun⟩⟩
    · exact field_balanced (by decide) (quotedForm_balanced name n h.1)
    · exact field_balanced (by decide) (quotedForm_balanced name a h.2)
  | table s a q, h => by
    refine fieldsText_balanced (by decide) ?_
    refine List.forall_mem_cons.mpr ⟨?_, List.forall_mem_cons.mpr ⟨?_,
      List.forall_mem_cons.mpr ⟨?_, nofun⟩⟩⟩
    · exact field_balanced (by decide) (quotedForm_balanced name s h.1)
    · exact field_balanced (by decide) (quotedForm_balanced name a h.2.1)
    · exact field_balanced (by decide) (quotedForm_balanced name q h.2.2)
  | order c d, h => by
    refine fieldsText_balanced (by decide) ?_
    refine List.forall_mem_cons.mpr ⟨?_, List.forall_mem_cons.mpr ⟨?_, nofun⟩⟩
    · exact field_balanced (by decide) (quotedForm_balanced name c h.1)
    · exact field_balanced (by decide) (quotedForm_balanced name d h.2)

theorem quotedForms_balanced (name : Reference → Outcome String) :
    (vs : List Value) → AllBalanced vs → ∀ m ∈ quotedForms name vs, BalancedText m
  | [], _ => nofun
  | v :: rest, h =>
    List.forall_mem_cons.mpr
      ⟨quotedForm_balanced name v h.1, quotedForms_balanced name rest h.2⟩

theorem quotedEntries_balanced (name : Reference → Outcome String) :
    (es : List (Value × Value)) → EntriesBalanced es → ∀ m ∈ quotedEntries name es, BalancedText m
  | [], _ => nofun
  | (k, v) :: rest, h =>
    List.forall_mem_cons.mpr
      ⟨entryText_balanced (quotedForm_balanced name k h.1) (quotedForm_balanced name v h.2.1),
        quotedEntries_balanced name rest h.2.2⟩

end

mutual

theorem Balanced.relocate (F : Reference → Reference) : {v : Value} → v.Balanced → v.relocate F = v
  | list items, h | tuple items, h | set items, h | iterator items, h => by
    simp only [Value.relocate, AllBalanced.relocate F h]
  | dict entries, h => by simp only [Value.relocate, EntriesBalanced.relocate F h]
  | number v, h | quoted v, h | raw v, h => by
    simp only [Value.relocate, Balanced.relocate F (v := v) h]
  | column v w, h | order v w, h => by
    simp only [Value.relocate, Balanced.relocate F h.1, Balanced.relocate F h.2]
  | table s a q, h => by
    simp only [Value.relocate, Balanced.relocate F h.1, Balanced.relocate F h.2.1,
      Balanced.relocate F h.2.2]
  | null, _ | bool _, _ | int _, _ | double _, _ | decimal _, _ | text _, _ | joinType _, _
  | direction _, _ | code _, _ => rfl

theorem AllBalanced.relocate (F : Reference → Reference) :
    {vs : List Value} → AllBalanced vs → relocateAll F vs = vs
  | [], _ => rfl
  | v :: rest, h => by
    simp only [relocateAll, Balanced.relocate F h.1, AllBalanced.relocate F h.2]

theorem EntriesBalanced.relocate (F : Reference → Reference) :
    {es : List (Value × Value)} → EntriesBalanced es → relocateEntries F es = es
  | [], _ => rfl
  | (k, v) :: rest, h => by
    simp only [relocateEntries, Balanced.relocate F h.1, Balanced.relocate F h.2.1,
      EntriesBalanced.relocate F h.2.2]

end

mutual

theorem Balanced.references : {v : Value} → v.Balanced → v.references = []
  | list items, h | tuple items, h | set items, h | iterator items, h => by
    simp only [Value.references, AllBalanced.references h]
  | dict entries, h => by simp only [Value.references, EntriesBalanced.references h]
  | number v, h | quoted v, h | raw v, h => Balanced.references (v := v) h
  | column v w, h | order v w, h => by
    simp only [Value.references, Balanced.references h.1, Balanced.references h.2,
      List.append_nil]
  | table s a q, h => by
    simp only [Value.references, Balanced.references h.1, Balanced.references h.2.1,
      Balanced.references h.2.2, List.append_nil]
  | null, _ | bool _, _ | int _, _ | double _, _ | decimal _, _ | text _, _ | joinType _, _
  | direction _, _ | code _, _ => rfl

theorem AllBalanced.references : {vs : List Value} → AllBalanced vs → referencesAll vs = []
  | [], _ => rfl
  | v :: rest, h => by
    simp only [referencesAll, Balanced.references h.1, AllBalanced.references h.2,
      List.append_nil]

theorem EntriesBalanced.references :
    {es : List (Value × Value)} → EntriesBalanced es → referencesEntries es = []
  | [], _ => rfl
  | (k, v) :: rest, h => by
    simp only [referencesEntries, Balanced.references h.1, Balanced.references h.2.1,
      EntriesBalanced.references h.2.2, List.append_nil]

end

theorem Balanced.toText {v : Value} (h : v.Balanced) (r : Resolver) :
    BalancedText (v.toText r) := by
  cases v with
  | text s => exact ⟨s, rfl, h.1⟩
  | joinType t => exact ⟨_, rfl, (by decide : Text.Balanced "JoinType.").append t.word_balanced⟩
  | direction d =>
    exact ⟨_, rfl, (by decide : Text.Balanced "SortDirection.").append d.word_balanced⟩
  | code c => exact ⟨_, rfl, c.label_balanced⟩
  | decimal d => exact ⟨_, rfl, d.text_balanced⟩
  | path location | problem p | fault name args | reference x => exact h.elim
  | _ => exact quotedForm_balanced r.quoted _ h

end Value

end SelectBuilder
