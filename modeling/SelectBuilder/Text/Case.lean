import SelectBuilder.Text.CaseTable

/-!
# Full upper-casing

Every character is replaced by its upper-case form, which may have several characters; its
neighbours play no part.
-/
namespace SelectBuilder.Text

def upperChar (c : Char) : List Char :=
  match caseExpansions.lookup c.toNat with
  | some codes => codes.map Char.ofNat
  | none =>
    match caseRuns.find? (fun r => decide (r.Covers c.toNat)) with
    | some r => [Char.ofNat (c.toNat + r.shift).toNat]
    | none => [c]

def upper (s : String) : String := String.ofList (s.toList.flatMap upperChar)

@[simp] theorem toList_upper (s : String) : (upper s).toList = s.toList.flatMap upperChar := by
  simp [upper]

@[simp] theorem upper_append (s t : String) : upper (s ++ t) = upper s ++ upper t := by
  simp [upper, String.ofList_append]

end SelectBuilder.Text
