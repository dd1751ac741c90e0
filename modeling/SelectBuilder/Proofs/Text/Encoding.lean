import SelectBuilder.Text.CodePoint

/-!
# Texts that can be encoded

A text cannot be encoded if and only if a half of a surrogate pair stands in it. No character is
such a half, so a text without the marker can be encoded.
-/
namespace SelectBuilder.Text

theorem isHalf_toNat (c : Char) : isHalf c.toNat = false := by
  have valid : c.toNat < 0xd800 ∨ 0xdfff < c.toNat ∧ c.toNat < 0x110000 := c.valid
  simp only [isHalf, decide_eq_false_iff_not]
  omega

/-- Without the marker every character stands for itself. -/
theorem codePointsOf_eq_map {cs : List Char} (plain : marker ∉ cs) :
    codePointsOf cs = cs.map Char.toNat := by
  induction cs with
  | nil => rfl
  | cons c rest ih =>
    obtain ⟨other, plain⟩ : marker ≠ c ∧ marker ∉ rest := by simpa using plain
    cases rest with
    | nil => rfl
    | cons d rest => simp [codePointsOf, Ne.symm other, ih plain]

theorem isEncodable_of_plain {s : String} (plain : marker ∉ s.toList) :
    isEncodable s = true := by
  rw [isEncodable, codePoints, codePointsOf_eq_map plain]
  simp [isHalf_toNat]

end SelectBuilder.Text
