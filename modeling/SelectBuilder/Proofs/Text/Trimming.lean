import Mathlib.Data.List.Basic
import Mathlib.Data.List.TakeWhile
import SelectBuilder.Text.Blank

/-!
# Trimmed texts

A text without the blanks at its ends is the one part of it that neither begins nor ends with a
blank and has only blanks before and after it.
-/
namespace SelectBuilder.Text

/-- A text neither begins nor ends with a blank. -/
structure IsTrimmed (u : String) : Prop where
  begins : ∀ c ∈ u.toList.head?, isBlank c = false
  ends : ∀ c ∈ u.toList.getLast?, isBlank c = false

/-- A text is another one without the blanks at its ends. -/
def Trims (t u : String) : Prop :=
  ∃ front back : List Char, t.toList = front ++ (u.toList ++ back) ∧
    (∀ c ∈ front ++ back, isBlank c = true) ∧ IsTrimmed u

theorem dropWhile_of_begins {cs : List Char} (h : ∀ c ∈ cs.head?, isBlank c = false) :
    cs.dropWhile isBlank = cs := by
  cases cs with
  | nil => rfl
  | cons c rest => exact List.dropWhile_cons_of_neg (by simp [h c rfl])

theorem begins_dropWhile (cs : List Char) :
    ∀ c ∈ (cs.dropWhile isBlank).head?, isBlank c = false := by
  intro c first
  have known := List.head?_dropWhile_not isBlank cs
  rw [Option.mem_def.mp first] at known
  exact known

/-- What trimming leaves is cut out of the text between two runs of blanks. -/
theorem trims_trim (t : String) : Trims t (trim t) := by
  let rest := t.toList.dropWhile isBlank
  let core := rest.reverse.dropWhile isBlank
  have trimmed : (trim t).toList = core.reverse := toList_trim t
  have begun : t.toList = t.toList.takeWhile isBlank ++ rest :=
    List.takeWhile_append_dropWhile.symm
  have ended : rest = core.reverse ++ (rest.reverse.takeWhile isBlank).reverse := by
    rw [← List.reverse_append, List.takeWhile_append_dropWhile, List.reverse_reverse]
  refine ⟨t.toList.takeWhile isBlank, (rest.reverse.takeWhile isBlank).reverse, ?_, ?_, ?_, ?_⟩
  · rw [trimmed, ← ended]
    exact begun
  · intro c among
    rcases List.mem_append.mp among with front | back
    · exact List.mem_takeWhile_imp front
    · exact List.mem_takeWhile_imp (List.mem_reverse.mp back)
  · rw [trimmed]
    intro c first
    apply begins_dropWhile t.toList c
    change c ∈ rest.head?
    rw [ended, List.head?_append, Option.mem_def.mp first]
    rfl
  · rw [trimmed, List.getLast?_reverse]
    exact begins_dropWhile rest.reverse

theorem Trims.trim_eq {t u : String} (h : Trims t u) : trim t = u := by
  obtain ⟨front, back, text, blank, trimmed⟩ := h
  have front_blank : ∀ c ∈ front, isBlank c = true := fun c among =>
    blank c (List.mem_append_left back among)
  have back_blank : ∀ c ∈ back.reverse, isBlank c = true := fun c among =>
    blank c (List.mem_append_right front (List.mem_reverse.mp among))
  have last : ∀ c ∈ u.toList.reverse.head?, isBlank c = false := by
    rw [List.head?_reverse]
    exact trimmed.ends
  rw [← String.toList_inj, toList_trim, trimBlanks, trimWhere, text,
    List.dropWhile_append_of_pos front_blank]
  rcases eq_or_ne u.toList [] with none | some
  · rw [none, List.nil_append, List.dropWhile_eq_nil_iff.mpr fun c among =>
      back_blank c (List.mem_reverse.mpr among)]
    rfl
  · have begins : ∀ c ∈ (u.toList ++ back).head?, isBlank c = false := by
      rw [List.head?_append_of_ne_nil _ some]
      exact trimmed.begins
    rw [dropWhile_of_begins begins, List.reverse_append, List.dropWhile_append_of_pos back_blank,
      dropWhile_of_begins last, List.reverse_reverse]

/-- Trimming leaves a text as it is if and only if it is trimmed. -/
theorem trim_eq_self {t : String} : trim t = t ↔ IsTrimmed t := by
  constructor
  · intro same
    obtain ⟨-, -, -, -, trimmed⟩ := trims_trim t
    rwa [same] at trimmed
  · intro trimmed
    exact Trims.trim_eq ⟨[], [], by simp, by simp, trimmed⟩

end SelectBuilder.Text
