import Mathlib.Data.List.Infix
import SelectBuilder.Text.Quoted

/-!
# Balanced parentheses

A text is balanced if no beginning of it closes more parentheses than it opens, and the whole closes
all that it opens. Nothing but the parentheses counts for this, so that a quoted text is balanced if
and only if the text is, and a balanced text can be put anywhere into another one.
-/
namespace SelectBuilder.Text

/-- The parentheses of a text, in their order. -/
def parens (cs : List Char) : List Char := cs.filter fun c => c == '(' || c == ')'

@[simp] theorem parens_nil : parens [] = [] := rfl

@[simp] theorem parens_append (cs ds : List Char) : parens (cs ++ ds) = parens cs ++ parens ds :=
  List.filter_append ..

@[simp] theorem parens_cons (c : Char) (cs : List Char) :
    parens (c :: cs) = if c = '(' ∨ c = ')' then c :: parens cs else parens cs := by
  simp [parens, List.filter_cons]

theorem parens_flatMap {α : Type} (f : α → List Char) (l : List α) :
    parens (l.flatMap f) = l.flatMap fun a => parens (f a) := List.filter_flatMap ..

theorem parens_eq_nil {cs : List Char} : parens cs = [] ↔ ∀ c ∈ cs, c ≠ '(' ∧ c ≠ ')' := by
  simp [parens]

/-- What is taken from a text without parentheses has none. -/
theorem parens_of_subset {cs ds : List Char} (none : parens cs = []) (sub : ds ⊆ cs) :
    parens ds = [] :=
  parens_eq_nil.mpr fun c hc => parens_eq_nil.mp none c (sub hc)

structure BalancedChars (cs : List Char) : Prop where
  opened : ∀ p, p <+: cs → p.count ')' ≤ p.count '('
  closed : cs.count ')' = cs.count '('

namespace BalancedChars

variable {cs ds es : List Char}

theorem iff_inits : BalancedChars cs ↔
    (∀ p ∈ cs.inits, p.count ')' ≤ p.count '(') ∧ cs.count ')' = cs.count '(' := by
  simp only [List.mem_inits]
  exact ⟨fun h => ⟨h.opened, h.closed⟩, fun h => ⟨h.1, h.2⟩⟩

instance (cs : List Char) : Decidable (BalancedChars cs) := decidable_of_iff' _ iff_inits

theorem count_parens {c : Char} (paren : c = '(' ∨ c = ')') (cs : List Char) :
    (parens cs).count c = cs.count c :=
  List.count_filter (by rcases paren with rfl | rfl <;> rfl)

theorem of_parens (same : parens ds = parens cs) (h : BalancedChars cs) : BalancedChars ds where
  opened p hp := by
    have inside : parens p <+: parens cs := same ▸ hp.filter _
    obtain ⟨q, hq, alike⟩ := List.prefix_filter_iff.mp inside
    have alike : parens p = parens q := alike
    rw [← count_parens (.inl rfl), ← count_parens (.inr rfl) p, alike, count_parens (.inl rfl),
      count_parens (.inr rfl)]
    exact h.opened q hq
  closed := by
    rw [← count_parens (.inl rfl), ← count_parens (.inr rfl) ds, same, count_parens (.inl rfl),
      count_parens (.inr rfl)]
    exact h.closed

theorem nil : BalancedChars [] := by decide

theorem of_parens_nil (none : parens cs = []) : BalancedChars cs := of_parens (by simpa) nil

/-- What is put into a balanced text is closed where it ends, whatever stands on either side. -/
theorem insert (around : BalancedChars (cs ++ ds)) (h : BalancedChars es) :
    BalancedChars (cs ++ es ++ ds) where
  opened p hp := by
    obtain ⟨rest, whole⟩ := hp
    rw [List.append_assoc] at whole
    -- The beginning ends before what is put in, behind it, or inside it.
    rcases List.append_eq_append_iff.mp whole with ⟨u, rfl, -⟩ | ⟨q, rfl, later⟩
    · exact around.opened p ⟨u ++ ds, by simp⟩
    rcases List.append_eq_append_iff.mp later with ⟨u, rfl, beyond⟩ | ⟨u, inside, -⟩
    · have outer := around.opened (cs ++ u) ⟨rest, by simp [beyond]⟩
      have inner := h.closed
      simp only [List.count_append] at outer ⊢
      omega
    · have outer := around.opened cs (List.prefix_append cs ds)
      have inner := h.opened q ⟨u, inside.symm⟩
      simp only [List.count_append]
      omega
  closed := by
    have outer := around.closed
    have inner := h.closed
    simp only [List.count_append] at outer ⊢
    omega

theorem append (h : BalancedChars cs) (h' : BalancedChars ds) : BalancedChars (cs ++ ds) := by
  simpa using @insert cs [] ds (by simpa using h) h'

end BalancedChars

/-- No beginning of the text closes more parentheses than it opens, and the whole closes as many as
it opens. -/
def Balanced (s : String) : Prop := BalancedChars s.toList

instance (s : String) : Decidable (Balanced s) := inferInstanceAs (Decidable (BalancedChars _))

variable {s t left right : String}

theorem Balanced.append (h : Balanced s) (h' : Balanced t) : Balanced (s ++ t) := by
  simpa [Balanced] using BalancedChars.append h h'

theorem Balanced.insert (around : Balanced (left ++ right)) (h : Balanced s) :
    Balanced (left ++ s ++ right) := by
  have around : BalancedChars (left.toList ++ right.toList) := by simpa [Balanced] using around
  simpa [Balanced] using around.insert h

theorem Balanced.intercalate {separator : String} (between : Balanced separator) {ts : List String}
    (h : ∀ t ∈ ts, Balanced t) : Balanced (String.intercalate separator ts) := by
  induction ts with
  | nil => exact BalancedChars.nil
  | cons t rest ih =>
    obtain ⟨first, later⟩ := List.forall_mem_cons.mp h
    cases rest with
    | nil => simpa using first
    | cons u rest =>
      rw [String.intercalate_cons_cons]
      exact (first.append between).append (ih later)

theorem balanced_ofList {cs : List Char} (none : parens cs = []) : Balanced (String.ofList cs) := by
  simpa [Balanced] using BalancedChars.of_parens_nil none

/-! ## Quoted text -/

/-- A text that is written as its code points are, as every text is that has been read. -/
def Proper (s : String) : Prop := ofCodePoints (codePoints s) = s

instance (s : String) : Decidable (Proper s) := inferInstanceAs (Decidable (_ = _))

/-- The digits of a numeral are all digits below its base. -/
theorem digits_of_mem {b : Nat} (base : 1 < b) (n : Nat) {c : Char} (h : c ∈ Nat.toDigits b n) :
    ∃ k < b, c = k.digitChar := by
  induction n using Nat.strongRecOn with
  | ind n ih =>
    rw [Nat.toDigits_eq_if base] at h
    split at h
    · next small => exact ⟨n, small, List.mem_singleton.mp h⟩
    · next large =>
      rcases List.mem_append.mp h with before | last
      · exact ih (n / b) (Nat.div_lt_self (by omega) base) before
      · exact ⟨n % b, Nat.mod_lt n (by omega), List.mem_singleton.mp last⟩

theorem parens_toDigits {b : Nat} (base : 1 < b) (small : b ≤ 16) (n : Nat) :
    parens (Nat.toDigits b n) = [] := by
  refine parens_eq_nil.mpr fun c hc => ?_
  obtain ⟨k, below, rfl⟩ := digits_of_mem base n hc
  have all : ∀ k < 16, Nat.digitChar k ≠ '(' ∧ Nat.digitChar k ≠ ')' := by decide
  exact all k (by omega)

theorem parens_replicate {c : Char} (other : c ≠ '(' ∧ c ≠ ')') (n : Nat) :
    parens (List.replicate n c) = [] :=
  parens_eq_nil.mpr fun _ hd => (List.eq_of_mem_replicate hd) ▸ other

theorem parens_hexadecimal (width n : Nat) : parens (hexadecimal width n) = [] := by
  simp [hexadecimal, parens_replicate, parens_toDigits]

theorem parens_numbered (n : Nat) : parens (numbered n) = [] := by
  unfold numbered
  split
  · simp [parens_hexadecimal]
  · split <;> simp [parens_hexadecimal]

theorem parens_written (n : Nat) :
    parens (written n) = if isHalf n then [] else parens [Char.ofNat n] := by
  have noMarker : marker ≠ '(' ∧ marker ≠ ')' := by decide
  unfold written
  split
  · next half =>
    -- The character that tells the half lies far above the parentheses.
    have noHalf (c : Char) (plain : c.toNat < 0x100000) : Char.ofNat (n + 0x100000) ≠ c := by
      rintro rfl
      have inside : 0xd800 ≤ n ∧ n ≤ 0xdfff := by simpa [isHalf] using half
      have valid : isCodePoint (n + 0x100000) := by
        simp only [isCodePoint, decide_eq_true_eq]
        omega
      have whole : isHalf (n + 0x100000) = false := by
        simp only [isHalf, decide_eq_false_iff_not]
        omega
      rw [toNat_ofNat valid whole] at plain
      omega
    simp [noMarker, noHalf '(' (by decide), noHalf ')' (by decide)]
  · split
    · next last =>
      rw [last]
      decide
    · rfl

/-- The parentheses are printable, so that no escape hides one. -/
theorem parens_escapePoint (quote : Char) (n : Nat) :
    parens (escapePoint quote n) = parens (written n) := by
  rw [parens_written]
  unfold escapePoint
  dsimp only
  split
  · exact parens_numbered n
  · split
    · simp
    · cases short : shortEscape? (Char.ofNat n) with
      | some e =>
        unfold shortEscape? at short
        split at short <;> cases short <;> simp_all
      | none =>
        dsimp only
        split
        · rfl
        · next hidden =>
          have shown : isPrintable '(' ∧ isPrintable ')' := by decide
          have notOpen : Char.ofNat n ≠ '(' := fun same => hidden (same ▸ shown.1)
          have notClose : Char.ofNat n ≠ ')' := fun same => hidden (same ▸ shown.2)
          simp [parens_numbered, notOpen, notClose]

theorem parens_quoteChars (ns : List Nat) :
    parens (quoteChars ns) = parens (ns.flatMap written) := by
  have other : quoteFor ns ≠ '(' ∧ quoteFor ns ≠ ')' := by
    unfold quoteFor
    split <;> decide
  simp [quoteChars, other, parens_flatMap, parens_escapePoint]

/-- A quoted text is balanced like the text. -/
theorem balanced_quoted (proper : Proper s) (h : Balanced s) : Balanced (quoted s) := by
  have same : parens (quoted s).toList = parens s.toList := by
    conv_rhs => rw [← proper]
    simp [quoted, ofCodePoints, parens_quoteChars]
  exact h.of_parens same

end SelectBuilder.Text
