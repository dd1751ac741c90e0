import SelectBuilder.Keyword
import SelectBuilder.Text.Case
import Mathlib.Data.List.Infix

/-!
# Words in any case

Upper-casing turns few texts into a given word of capitals: those that are the word up to the case
of its letters, where a dotless i counts as an i, a long s as an s, and a sharp s as two of them.
The ligatures would be further ones, but only in words in which their letters stand side by side.
-/
namespace SelectBuilder.Text

/-- The letters that a character counts as when case is ignored. -/
def baseLetters (c : Char) : List Char :=
  if c = 'ı' then ['i'] else if c = 'ſ' then ['s'] else if c = 'ß' then ['s', 's'] else [c]

/-- A text is a word up to the case of ASCII letters. -/
def Spells (s w : String) : Prop := (s.toList.flatMap baseLetters).map Char.toUpper = w.toList

instance (s w : String) : Decidable (Spells s w) := inferInstanceAs (Decidable (_ = _))

/-- What the ligatures of Latin letters come to. -/
def ligatures : List (List Char) :=
  [['F', 'F'], ['F', 'I'], ['F', 'L'], ['F', 'F', 'I'], ['F', 'F', 'L'], ['S', 'T']]

/-- No part of a word without ligatures. -/
def IsForeign (cs : List Char) : Prop := (∃ c ∈ cs, c.isUpper = false) ∨ cs ∈ ligatures

/-- Capitals none of which could come from a ligature. -/
structure IsPlainWord (cs : List Char) : Prop where
  capitals : cs.all Char.isUpper
  apart : ∀ l ∈ ligatures, ¬l <:+: cs

theorem IsPlainWord.of_infix {cs ds : List Char} (h : IsPlainWord ds) (inside : cs <:+: ds) :
    IsPlainWord cs where
  capitals := List.all_eq_true.mpr fun c hc => List.all_eq_true.mp h.capitals c (inside.subset hc)
  apart l hl part := h.apart l hl (part.trans inside)

theorem IsPlainWord.not_isForeign {cs : List Char} (h : IsPlainWord cs) : ¬IsForeign cs := by
  rintro (⟨c, hc, other⟩ | ligature)
  · rw [List.all_eq_true.mp h.capitals c hc] at other
    cases other
  · exact h.apart cs ligature List.infix_rfl

theorem isUpper_iff {c : Char} : c.isUpper ↔ 65 ≤ c.toNat ∧ c.toNat ≤ 90 := by
  show decide ((65 : UInt32) ≤ c.val ∧ c.val ≤ 90) = true ↔ _
  simp [UInt32.le_iff_toNat_le, ← Char.toNat_val]

/-- The characters with several characters in upper case: the sharp s, the ligatures, and others
that do not come to capitals alone. -/
theorem caseExpansions_cases :
    ∀ e ∈ caseExpansions, e.1 = 223 ∨
      122 < e.1 ∧ (e.2.map Char.ofNat ∈ ligatures ∨ e.2.any fun n => !(Char.ofNat n).isUpper) := by
  decide +kernel

/-- Besides the small letters only the dotless i and the long s have a capital as their partner. -/
theorem caseRuns_cases :
    ∀ r ∈ caseRuns, r = ⟨97, 122, 1, -32⟩ ∨ r = ⟨305, 305, 1, -232⟩ ∨ r = ⟨383, 383, 1, -300⟩ ∨
      122 < r.first ∧ (r.last + r.shift < 65 ∨ 90 < r.first + r.shift) := by
  decide +kernel

/-- The capitals that a character counts as. -/
def spelled (c : Char) : List Char := (baseLetters c).map Char.toUpper

theorem upperChar_small {c : Char} (small : 97 ≤ c.toNat ∧ c.toNat ≤ 122) :
    upperChar c = spelled c := by
  have each : ∀ n < 123, 97 ≤ n → upperChar (Char.ofNat n) = spelled (Char.ofNat n) := by
    decide +kernel
  simpa using each c.toNat (by omega) small.1

theorem toNat_ofNat_of_isUpper {n : Nat} (h : (Char.ofNat n).isUpper) : 65 ≤ n ∧ n ≤ 90 := by
  have bounds := isUpper_iff.mp h
  by_cases valid : n.isValidChar
  · rw [Char.ofNat, dif_pos valid] at bounds
    exact bounds
  · rw [Char.ofNat, dif_neg valid] at bounds
    exact absurd bounds.1 (by decide)

/-- A character that stands for itself in lower case is its own capital, or comes to no part of a
word without ligatures. -/
theorem upperChar_other {c : Char} (other : ¬(97 ≤ c.toNat ∧ c.toNat ≤ 122)) (noI : c.toNat ≠ 305)
    (noS : c.toNat ≠ 383) (noSS : c.toNat ≠ 223) :
    upperChar c = [c] ∨ 122 < c.toNat ∧ IsForeign (upperChar c) := by
  unfold upperChar
  split
  · next codes found =>
    obtain ⟨before, after, split, -⟩ := List.lookup_eq_some_iff.mp found
    rcases caseExpansions_cases (c.toNat, codes) (by simp [split]) with
      same | ⟨high, ligature | mixed⟩
    · exact absurd same noSS
    · exact .inr ⟨high, .inr ligature⟩
    · obtain ⟨n, hn, small⟩ := List.any_eq_true.mp mixed
      exact .inr ⟨high, .inl ⟨Char.ofNat n, List.mem_map_of_mem hn, by simpa using small⟩⟩
  · split
    · next r found =>
      obtain ⟨low, high, -⟩ : r.Covers c.toNat := by simpa using List.find?_some found
      -- The runs that lead to capitals cover none but the small letters and the two others.
      have outside : 122 < r.first ∧ (r.last + r.shift < 65 ∨ 90 < r.first + r.shift) := by
        rcases caseRuns_cases r (List.mem_of_find?_eq_some found) with rfl | rfl | rfl | outside
        · exact absurd ⟨low, high⟩ other
        · exact absurd (Nat.le_antisymm high low) noI
        · exact absurd (Nat.le_antisymm high low) noS
        · exact outside
      refine .inr ⟨by omega, .inl ⟨_, List.mem_singleton_self _, ?_⟩⟩
      refine Bool.eq_false_iff.mpr fun capital => ?_
      have := toNat_ofNat_of_isUpper capital
      omega
    · exact .inl rfl

theorem toUpper_of_not_small {c : Char} (other : ¬(97 ≤ c.toNat ∧ c.toNat ≤ 122)) :
    c.toUpper = c := by
  unfold Char.toUpper
  rw [dif_neg]
  exact other

/-- A character comes to the capitals that it counts as, or neither could be a part of the word. -/
theorem upperChar_cases (c : Char) :
    upperChar c = spelled c ∨ IsForeign (upperChar c) ∧ IsForeign (spelled c) := by
  by_cases small : 97 ≤ c.toNat ∧ c.toNat ≤ 122
  · exact .inl (upperChar_small small)
  by_cases special : c = 'ı' ∨ c = 'ſ' ∨ c = 'ß'
  · rcases special with rfl | rfl | rfl <;> exact .inl (by decide +kernel)
  · obtain ⟨noI, noS, noSS⟩ : c ≠ 'ı' ∧ c ≠ 'ſ' ∧ c ≠ 'ß' := by simpa [not_or] using special
    have itself : spelled c = [c] := by
      simp [spelled, baseLetters, noI, noS, noSS, toUpper_of_not_small small]
    rw [itself]
    refine (upperChar_other small (fun h => noI (Char.toNat_inj.mp h))
      (fun h => noS (Char.toNat_inj.mp h)) (fun h => noSS (Char.toNat_inj.mp h))).imp_right ?_
    rintro ⟨high, foreign⟩
    refine ⟨foreign, .inl ⟨c, List.mem_singleton_self c, Bool.eq_false_iff.mpr fun capital => ?_⟩⟩
    have := isUpper_iff.mp capital
    omega

/-- Upper-casing comes to a word without ligatures for its spellings alone. -/
theorem flatMap_upperChar_eq_iff {cs w : List Char} (plain : IsPlainWord w) :
    cs.flatMap upperChar = w ↔ cs.flatMap spelled = w := by
  induction cs generalizing w with
  | nil => rfl
  | cons c cs ih =>
    simp only [List.flatMap_cons]
    rcases upperChar_cases c with same | ⟨foreign, foreign'⟩
    · rw [same]
      constructor
      · rintro rfl
        rw [ih (plain.of_infix (List.suffix_append _ _).isInfix) |>.mp rfl]
      · rintro rfl
        rw [ih (plain.of_infix (List.suffix_append _ _).isInfix) |>.mpr rfl]
    · constructor
      · rintro rfl
        exact absurd foreign (plain.of_infix (List.prefix_append _ _).isInfix).not_isForeign
      · rintro rfl
        exact absurd foreign' (plain.of_infix (List.prefix_append _ _).isInfix).not_isForeign

theorem upper_eq_iff {s w : String} (plain : IsPlainWord w.toList) :
    upper s = w ↔ Spells s w := by
  rw [← String.toList_inj, toList_upper, flatMap_upperChar_eq_iff plain, Spells, List.map_flatMap]
  rfl

theorem upper_joinType_iff {s : String} {t : JoinType} : upper s = t.word ↔ Spells s t.word := by
  refine upper_eq_iff ?_
  cases t <;> exact ⟨by decide, by decide⟩

theorem upper_direction_iff {s : String} {d : SortDirection} :
    upper s = d.word ↔ Spells s d.word := by
  refine upper_eq_iff ?_
  cases d <;> exact ⟨by decide, by decide⟩

end SelectBuilder.Text
