import Mathlib.Data.List.Infix

/-!
# Listings

A listing has entries with commas between them, and every entry has words with spaces between them.
If no word has a comma or a space in it, the entries and their words can be read off the text.
-/
namespace SelectBuilder.Text

/-- A word that can be told from what stands around it. -/
def IsPlain (s : String) : Prop := ',' ∉ s.toList ∧ ' ' ∉ s.toList

instance (s : String) : Decidable (IsPlain s) := inferInstanceAs (Decidable (_ ∧ _))

/-- An entry has words, and all of them are plain. -/
structure IsEntry (words : List String) : Prop where
  worded : words ≠ []
  plain : ∀ w ∈ words, IsPlain w

def phrase (words : List String) : String := String.intercalate " " words

def listing (entries : List (List String)) : String :=
  String.intercalate ", " (entries.map phrase)

/-- What was joined with a separator can be split at it. -/
theorem intercalate_injective {α : Type} [DecidableEq α] {separator : α} {l m : List (List α)}
    (apart : ∀ x ∈ l, separator ∉ x) (apart' : ∀ x ∈ m, separator ∉ x) (some : l ≠ [])
    (some' : m ≠ []) (same : [separator].intercalate l = [separator].intercalate m) : l = m := by
  have split := congrArg (List.splitOn separator) same
  rwa [List.splitOn_intercalate separator apart some,
    List.splitOn_intercalate separator apart' some'] at split

/-- A separator of two characters can be taken for the first one if all items but the first begin
with the second one. -/
theorem intercalate_pair {α : Type} (a b : α) (x : List α) (l : List (List α)) :
    [a, b].intercalate (x :: l) = [a].intercalate (x :: l.map (b :: ·)) := by
  induction l generalizing x with
  | nil => simp
  | cons y l ih =>
    rw [List.map_cons, List.intercalate_cons_cons, List.intercalate_cons_cons, ih]
    cases l <;> simp [List.intercalate_cons_cons]

theorem toList_phrase (words : List String) :
    (phrase words).toList = [' '].intercalate (words.map String.toList) := by
  rw [phrase, String.toList_intercalate]
  rfl

theorem phrase_injective {ws vs : List String} (entry : IsEntry ws) (entry' : IsEntry vs)
    (same : phrase ws = phrase vs) : ws = vs := by
  have chars := congrArg String.toList same
  rw [toList_phrase, toList_phrase] at chars
  have equal := intercalate_injective (by simpa using fun w hw => (entry.plain w hw).2)
    (by simpa using fun v hv => (entry'.plain v hv).2) (by simpa using entry.worded)
    (by simpa using entry'.worded) chars
  exact (List.map_inj_right fun _ _ => String.toList_inj.mp).mp equal

theorem phrases_injective {es fs : List (List String)} (entries : ∀ e ∈ es, IsEntry e)
    (entries' : ∀ f ∈ fs, IsEntry f) (same : es.map phrase = fs.map phrase) : es = fs := by
  induction es generalizing fs with
  | nil => simpa using same.symm
  | cons e es ih =>
    cases fs with
    | nil => cases same
    | cons f fs =>
      obtain ⟨first, later⟩ := List.forall_mem_cons.mp entries
      obtain ⟨first', later'⟩ := List.forall_mem_cons.mp entries'
      obtain ⟨head, tail⟩ := List.cons.inj same
      rw [phrase_injective first first' head, ih later later' tail]

theorem not_mem_intercalate {α : Type} {a b : α} {l : List (List α)} (apart : ∀ x ∈ l, a ∉ x)
    (other : a ≠ b) : a ∉ [b].intercalate l := by
  induction l with
  | nil => simp
  | cons x l ih =>
    obtain ⟨first, later⟩ := List.forall_mem_cons.mp apart
    cases l with
    | nil => simpa using first
    | cons y l => grind [List.intercalate_cons_cons]

theorem comma_not_mem_phrase {ws : List String} (entry : IsEntry ws) :
    ',' ∉ (phrase ws).toList := by
  rw [toList_phrase]
  exact not_mem_intercalate (by simpa using fun w hw => (entry.plain w hw).1) (by decide)

/-- Entries without commas can be read off at the commas. -/
theorem intercalate_comma_injective {ps qs : List String} (apart : ∀ p ∈ ps, ',' ∉ p.toList)
    (apart' : ∀ q ∈ qs, ',' ∉ q.toList) (some : ps ≠ []) (some' : qs ≠ [])
    (same : String.intercalate ", " ps = String.intercalate ", " qs) : ps = qs := by
  have spaced : ∀ rs : List String, (∀ r ∈ rs, ',' ∉ r.toList) →
      ∀ x ∈ (rs.map String.toList).map (' ' :: ·), ',' ∉ x := by simp
  match ps, qs, some, some' with
  | p :: ps, q :: qs, _, _ =>
    obtain ⟨first, later⟩ := List.forall_mem_cons.mp apart
    obtain ⟨first', later'⟩ := List.forall_mem_cons.mp apart'
    have chars : [',', ' '].intercalate ((p :: ps).map String.toList) =
        [',', ' '].intercalate ((q :: qs).map String.toList) := by
      simpa [String.toList_intercalate] using congrArg String.toList same
    rw [List.map_cons, List.map_cons, intercalate_pair, intercalate_pair] at chars
    obtain ⟨head, tail⟩ := List.cons.inj <| intercalate_injective
      (List.forall_mem_cons.mpr ⟨first, spaced ps later⟩)
      (List.forall_mem_cons.mpr ⟨first', spaced qs later'⟩) nofun nofun chars
    have tail := (List.map_inj_right fun _ _ h => (List.cons.inj h).2).mp tail
    rw [String.toList_inj.mp head, (List.map_inj_right fun _ _ => String.toList_inj.mp).mp tail]

/-- The entries and their words can be read off the text: at first the entries at the commas, and
then the words of each at its spaces. -/
theorem listing_injective {es fs : List (List String)} (entries : ∀ e ∈ es, IsEntry e)
    (entries' : ∀ f ∈ fs, IsEntry f) (some : es ≠ []) (some' : fs ≠ [])
    (same : listing es = listing fs) : es = fs :=
  phrases_injective entries entries' <| intercalate_comma_injective
    (by simpa using fun e he => comma_not_mem_phrase (entries e he))
    (by simpa using fun f hf => comma_not_mem_phrase (entries' f hf)) (by simpa using some)
    (by simpa using some') same

end SelectBuilder.Text
