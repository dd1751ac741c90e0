import Mathlib.Data.List.Basic
import SelectBuilder.Number.Digits

/-!
# Digits of natural numbers

A natural number is written with digits alone, without a zero in front of others, and is read back
from what is written.
-/
namespace SelectBuilder

namespace Number

theorem valueOf_digits (n : Nat) : valueOf (digits n) = n :=
  Nat.ofDigitChars_toDigits (by decide) (by decide)

theorem isDigit_of_mem_digits {n : Nat} {c : Char} (h : c ∈ digits n) : c.isDigit = true :=
  Nat.isDigit_of_mem_toDigits (by decide) (by decide) h

theorem head?_digits {n : Nat} (positive : 0 < n) : (digits n).head? ≠ some '0' := by
  induction n using Nat.strongRecOn with
  | ind n ih =>
    rw [digits, Nat.toDigits_eq_if (by decide)]
    split
    · next single =>
      have each : ∀ n < 10, 0 < n → [n.digitChar].head? ≠ some '0' := by decide
      exact each n single positive
    · next more =>
      rw [List.head?_append_of_ne_nil _ Nat.toDigits_ne_nil]
      exact ih (n / 10) (by omega) (by omega)

/-- A text spells a natural number: it has digits and nothing else, the first of which is a zero
only if there is no other, and they are read as the number. -/
structure Spells (t : String) (n : Nat) : Prop where
  filled : t ≠ ""
  digits : ∀ c ∈ t.toList, c.isDigit = true
  leading : t.toList.head? = some '0' → t = "0"
  value : valueOf t.toList = n

theorem spells_natText (n : Nat) : Spells (natText n) n where
  filled := by
    rw [natText, Ne, String.ofList_eq_empty_iff]
    exact Nat.toDigits_ne_nil
  digits c among := isDigit_of_mem_digits (by simpa [natText] using among)
  leading zero := by
    rcases Nat.eq_zero_or_pos n with rfl | positive
    · rfl
    · exact absurd (by simpa [natText] using zero) (head?_digits positive)
  value := by simp [natText, valueOf_digits]

/-- A text that begins with digits is divided after them in one way. -/
theorem digits_append_inj {ds ds' rest rest' : List Char} (hds : ∀ c ∈ ds, c.isDigit = true)
    (hds' : ∀ c ∈ ds', c.isDigit = true) (stops : rest.takeWhile Char.isDigit = [])
    (stops' : rest'.takeWhile Char.isDigit = []) (same : ds ++ rest = ds' ++ rest') :
    ds = ds' ∧ rest = rest' := by
  have taken := congrArg (List.takeWhile Char.isDigit) same
  rw [List.takeWhile_append_of_pos hds, List.takeWhile_append_of_pos hds', stops, stops',
    List.append_nil, List.append_nil] at taken
  subst taken
  exact ⟨rfl, List.append_cancel_left same⟩

end Number

end SelectBuilder
