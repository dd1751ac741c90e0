import SelectBuilder.Proofs.Builder.Planning
import SelectBuilder.Proofs.Number.Digits

/-!
# Pages

A page is a number of rows, and optionally a number of rows that come before it. When pagination is
checked, a clause for a page is planned if and only if the operands are a page, and the page can be
read off its text.
-/
namespace SelectBuilder

/-- How many rows there are at most, and how many are skipped before them, if that is said. -/
structure Page where
  count : Nat
  offset : Option Nat

namespace Page

/-- Two operands are the numbers of a page. -/
def Given (count offset : Value) (p : Page) : Prop :=
  count = .int p.count ∧ offset = p.offset.elim .null fun n => .int n

/-- A text shows a page. -/
inductive Shown : Page → String → Prop where
  | count {n : Nat} {t : String} (counted : Number.Spells t n) : Shown ⟨n, none⟩ ("LIMIT " ++ t)
  | offset {n m : Nat} {t u : String} (counted : Number.Spells t n)
      (skipped : Number.Spells u m) : Shown ⟨n, some m⟩ ("LIMIT " ++ t ++ " OFFSET " ++ u)

/-- What stands behind the count in the text of a page. -/
inductive Tail : Option Nat → List Char → Prop where
  | none : Tail none []
  | offset {m : Nat} {u : String} (skipped : Number.Spells u m) :
      Tail (some m) (" OFFSET ".toList ++ u.toList)

theorem Tail.takeWhile_isDigit {o : Option Nat} {rest : List Char} (h : Tail o rest) :
    rest.takeWhile Char.isDigit = [] := by
  cases h <;> rfl

theorem Tail.unique {o o' : Option Nat} {rest : List Char} (h : Tail o rest) (h' : Tail o' rest) :
    o = o' := by
  generalize same : rest = rest' at h'
  cases h with
  | none =>
    cases h' with
    | none => rfl
    | offset _ => exact absurd same (by simp)
  | offset skipped =>
    cases h' with
    | none => exact absurd same (by simp)
    | offset skipped' =>
      obtain rfl := String.toList_inj.mp (List.append_cancel_left same)
      rw [← skipped.value, ← skipped'.value]

theorem Shown.toList {p : Page} {t : String} (h : Shown p t) :
    ∃ u rest, t.toList = "LIMIT ".toList ++ (u.toList ++ rest) ∧ Number.Spells u p.count ∧
      Tail p.offset rest := by
  cases h with
  | count counted => exact ⟨_, [], by simp, counted, .none⟩
  | offset counted skipped => exact ⟨_, _, by simp, counted, .offset skipped⟩

/-- A text shows at most one page. -/
theorem Shown.unique {p q : Page} {t : String} (h : Shown p t) (h' : Shown q t) : p = q := by
  obtain ⟨u, rest, text, counted, tail⟩ := h.toList
  obtain ⟨u', rest', text', counted', tail'⟩ := h'.toList
  obtain ⟨same, rfl⟩ := Number.digits_append_inj counted.digits counted'.digits
    tail.takeWhile_isDigit tail'.takeWhile_isDigit
    (List.append_cancel_left (text.symm.trans text'))
  have counts : p.count = q.count := by rw [← counted.value, ← counted'.value, same]
  cases p
  cases q
  cases counts
  cases tail.unique tail'
  rfl

/-- The text of a page with the numbers as they are written. -/
def text (p : Page) : String :=
  "LIMIT " ++ Number.natText p.count ++
    p.offset.elim "" fun n => " OFFSET " ++ Number.natText n

theorem shown_text (p : Page) : Shown p p.text := by
  obtain ⟨n, _ | m⟩ := p
  · simpa [text] using Shown.count (Number.spells_natText n)
  · simpa [text, String.append_assoc] using
      Shown.offset (Number.spells_natText n) (Number.spells_natText m)

end Page

namespace Builder

variable {ctx : Context} {count offset : Value}

theorem isCount_iff {v : Value} (plain : ∀ c, v ≠ .code c) :
    isCount v ↔ ∃ n : Nat, v = .int n := by
  constructor
  · intro counts
    cases v with
    | int i =>
      have positive : 0 ≤ i := by simpa [isCount, Value.integer?] using counts
      obtain ⟨n, rfl⟩ := Int.eq_ofNat_of_zero_le positive
      exact ⟨n, rfl⟩
    | code c => exact absurd rfl (plain c)
    | _ => cases counts
  · rintro ⟨n, rfl⟩
    simp [isCount, Value.integer?]

/-- The operands pass the checks of pagination if and only if they are a page. -/
theorem exists_page_iff (counted : ∀ c, count ≠ .code c) (skipped : ∀ c, offset ≠ .code c) :
    (isCount count ∧ (offset.isNull ∨ isCount offset)) ↔ ∃ p, Page.Given count offset p := by
  rw [isCount_iff counted, isCount_iff skipped]
  constructor
  · rintro ⟨⟨n, rfl⟩, null | ⟨m, rfl⟩⟩
    · cases offset with
      | null => exact ⟨⟨n, none⟩, rfl, rfl⟩
      | _ => cases null
    · exact ⟨⟨n, some m⟩, rfl, rfl⟩
  · rintro ⟨⟨n, _ | m⟩, rfl, rfl⟩
    · exact ⟨⟨n, rfl⟩, .inl rfl⟩
    · exact ⟨⟨n, rfl⟩, .inr ⟨m, rfl⟩⟩

theorem planPaginate_page (ctx : Context) {p : Page} (given : p.Given count offset) :
    planPaginate ctx count offset = .ok (.append (.limit count offset)) := by
  refine planPaginate_eq_ok.mpr ⟨fun _ => ?_, rfl⟩
  obtain ⟨rfl, rfl⟩ := given
  obtain ⟨n, _ | m⟩ := p <;> simp [isCount, Value.integer?, Value.isNull]

/-- Operands that are no page are shown, first the count, and refused. -/
theorem planPaginate_malformed (checks : ctx.checksPagination)
    (malformed : ¬(isCount count ∧ (offset.isNull ∨ isCount offset))) :
    planPaginate ctx count offset =
      (do
        let c ← count.quotedForm ctx.resolver.quoted
        let o ← offset.quotedForm ctx.resolver.quoted
        misuse (.paginationMalformed c o)) := by
  have refused : (isCount count && (offset.isNull || isCount offset)) = false :=
    Bool.eq_false_iff.mpr fun passed => malformed (by simpa using passed)
  rw [planPaginate, checks, refused]
  rfl

theorem render_limit (r : Resolver) {p : Page} (given : p.Given count offset) :
    (Clause.limit count offset).render r = .ok p.text := by
  obtain ⟨rfl, rfl⟩ := given
  obtain ⟨n, _ | m⟩ := p
  · simp [Clause.render, Clause.limitText, Value.isNull, Page.text, Number.intText, pure,
      Except.pure]
  · simp [Clause.render, Clause.limitText, Value.isNull, Page.text, Number.intText,
      String.append_assoc, pure, Except.pure]

end Builder

end SelectBuilder
