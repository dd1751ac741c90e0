import SelectBuilder.Proofs.Builder.Spelling
import SelectBuilder.Proofs.Lists

/-!
# Items of lists

What a list of IN is meant to hold always has a text, which is empty for empty strings alone. The
lists of the clauses are refused for an entry that is empty, wherever it stands.
-/
namespace SelectBuilder

open Outcome

/-! ## Numbers are never written as nothing -/

namespace Number

theorem digits_ne_nil (n : Nat) : digits n ≠ [] := Nat.toDigits_ne_nil

theorem intText_ne_empty (i : Int) : intText i ≠ "" := by
  cases i <;> simp [intText, natText, digits_ne_nil]

theorem positional_ne_nil (ds : List Char) (order : Int) : positional ds order ≠ [] := by
  unfold positional
  split <;> simp

theorem FloatStyle.finiteChars_ne_nil (style : FloatStyle) (m : Nat) (e : Int) :
    style.finiteChars m e ≠ [] := by
  unfold FloatStyle.finiteChars
  split
  · simp
  · dsimp only
    split
    · exact positional_ne_nil _ _
    · simp [FloatStyle.exponentChars]

theorem Double.text_ne_empty (x : Double) : x.text ≠ "" := by
  cases x with
  | nan => decide
  | infinite negative => cases negative <;> decide
  | finite negative m e => simp [Double.text, FloatStyle.signedText, FloatStyle.finiteChars_ne_nil]

namespace Decimal

theorem finiteChars_ne_nil (c : Nat) (e : Int) : finiteChars c e ≠ [] := by
  unfold finiteChars
  dsimp only
  split
  · split
    · exact digits_ne_nil c
    · simp
  · simp [exponentChars]

theorem text_ne_empty (d : Decimal) : d.text ≠ "" := by
  cases d with
  | nan signaling negative payload => cases signaling <;> simp [text, chars]
  | infinite negative => simp [text, chars]
  | finite negative c e => simp [text, chars, finiteChars_ne_nil]

end Decimal

end Number

theorem ErrorCode.label_ne_empty (c : ErrorCode) : c.label ≠ "" := by
  have named : c.name ≠ "" := by cases c <;> decide
  simp [label, named]

namespace Value

variable {r : Resolver} {v : Value}

theorem IsNumber.numberText_ne_empty (h : v.IsNumber) : v.numberText ≠ "" := by
  cases v with
  | int i => exact Number.intText_ne_empty i
  | double x => exact x.text_ne_empty
  | decimal d => exact d.text_ne_empty
  | bool b => cases b <;> decide
  | code c => exact c.label_ne_empty
  | _ => exact h.elim

/-! ## Items -/

/-- What a list is meant to hold: nothing, truth values, numbers, strings, and literals of these. -/
def IsItem : Value → Prop
  | null => True
  | text _ => True
  | number w => w.IsNumber ∨ w.IsString
  | quoted w => w.IsNumber ∨ w.IsString
  | raw w => w.IsString
  | v => v.IsNumber

/-- An empty string, written as it is. -/
def IsEmptyItem (v : Value) : Prop := v = text "" ∨ v = number (text "") ∨ v = raw (text "")

theorem listedText_of_isNumber (h : v.IsNumber) : v.listedText r = .ok v.numberText := by
  cases v with
  | int | bool | code | double | decimal => rfl
  | _ => exact h.elim

theorem listedText_number (w : Value) : (number w).listedText r = w.toText r := by
  simp only [listedText, toRaw, render]
  cases w.toText r <;> rfl

theorem listedText_quoted (w : Value) :
    (quoted w).listedText r = (w.toText r).map fun t => "'" ++ t ++ "'" := by
  simp only [listedText, toRaw, render]
  cases w.toText r <;> rfl

/-- The text of an item is empty if and only if the item is. -/
theorem IsItem.listedText (h : v.IsItem) (r : Resolver) :
    ∃ t, v.listedText r = .ok t ∧ (t = "" ↔ v.IsEmptyItem) := by
  cases v with
  | null => exact ⟨"None", rfl, by simp [IsEmptyItem]⟩
  | text s => exact ⟨s, rfl, by simp [IsEmptyItem]⟩
  | number w =>
    rw [listedText_number]
    rcases h with h | h
    · refine ⟨_, h.toText r, iff_of_false h.numberText_ne_empty ?_⟩
      rintro (same | same | same) <;> cases same
      exact h
    · rw [h.eq_text]
      exact ⟨_, rfl, by simp [IsEmptyItem]⟩
  | quoted w =>
    rw [listedText_quoted]
    have text : ∃ t, w.toText r = .ok t :=
      h.elim (fun number => ⟨_, number.toText r⟩) fun string => ⟨_, string.toText r⟩
    obtain ⟨t, text⟩ := text
    rw [text]
    exact ⟨_, rfl, by simp [IsEmptyItem]⟩
  | raw w =>
    rw [IsString.eq_text h]
    exact ⟨w.string, rfl, by simp [IsEmptyItem]⟩
  | int | bool | double | decimal | code =>
    exact ⟨_, listedText_of_isNumber h,
      iff_of_false (IsNumber.numberText_ne_empty h) (by simp [IsEmptyItem])⟩
  | _ => exact h.elim

/-- The texts of the items of a list, which come in the order of the items. -/
theorem exists_listedTexts {vs : List Value} (items : ∀ v ∈ vs, v.IsItem) (r : Resolver) :
    ∃ ts, vs.mapM (Value.listedText r) = .ok ts ∧
      List.Forall₂ (fun v t => v.listedText r = .ok t ∧ (t = "" ↔ v.IsEmptyItem)) vs ts := by
  induction vs with
  | nil => exact ⟨[], rfl, .nil⟩
  | cons v rest ih =>
    obtain ⟨first, later⟩ := List.forall_mem_cons.mp items
    obtain ⟨t, text, empty⟩ := first.listedText r
    obtain ⟨ts, texts, each⟩ := ih later
    exact ⟨t :: ts, by rw [List.mapM_cons, text, texts]; rfl, .cons ⟨text, empty⟩ each⟩

/-! ## Entries of clauses -/

/-- An entry of a clause that is an empty text, or has one in the place of its name. -/
inductive IsEmptyEntry : Value → Prop
  | text : IsEmptyEntry (.text "")
  | column (aliasName : Value) : IsEmptyEntry (.column (.text "") aliasName)
  | order (direction : Value) : IsEmptyEntry (.order (.text "") direction)
  | list (rest : List Value) : IsEmptyEntry (.list (.text "" :: rest))
  | tuple (rest : List Value) : IsEmptyEntry (.tuple (.text "" :: rest))

theorem IsEmptyEntry.toColumn? (h : v.IsEmptyEntry) : v.toColumn? = none := by
  cases h with
  | list rest | tuple rest =>
    match rest with
    | [] | [_] | _ :: _ :: _ => rfl
  | _ => rfl

theorem IsEmptyEntry.isName (h : v.IsEmptyEntry) : v.isName = false := by
  cases h <;> rfl

theorem IsEmptyEntry.toSortItem? (h : v.IsEmptyEntry) (r : Resolver) :
    v.toSortItem? r = .ok none := by
  cases h with
  | list rest | tuple rest =>
    match rest with
    | [] | [_] | _ :: _ :: _ => rfl
  | _ => rfl

end Value

namespace Call

/-- The entries of a clause that is a list. -/
def entries? : Call → Option (List Value)
  | select columns => some columns
  | groupBy columns => some columns
  | orderBy items => some items
  | _ => none

end Call

namespace Builder

variable {r : Resolver} {ctx : Context} {b : Builder} {c : Call} {v : Value}

theorem sortItems_isError {items : List Value} (inside : v ∈ items) (empty : v.IsEmptyEntry) :
    ∃ e, sortItems r items = .error e := by
  induction items with
  | nil => cases inside
  | cons first rest ih =>
    cases sorted : first.toSortItem? r with
    | error e => exact ⟨e, by simp only [sortItems, sorted, error_bind]⟩
    | ok item? =>
      cases item? with
      | none => exact ⟨_, by simp only [sortItems, sorted, ok_bind]; rfl⟩
      | some item =>
        rcases List.mem_cons.mp inside with rfl | later
        · rw [empty.toSortItem? r] at sorted
          cases sorted
        · obtain ⟨e, failed⟩ := ih later
          exact ⟨e, by simp only [sortItems, sorted, ok_bind, failed, error_bind]⟩

/-- No clause that is a list takes an empty entry. -/
theorem plan_entries {items : List Value} (entries : c.entries? = some items) (inside : v ∈ items)
    (empty : v.IsEmptyEntry) : ∃ e, b.plan ctx c = .error e := by
  cases planned : b.plan ctx c with
  | error e => exact ⟨e, rfl⟩
  | ok change =>
    exfalso
    cases c with
    | select columns =>
      cases entries
      obtain ⟨-, -, cs, made, -⟩ := planSelect_eq_ok.mp planned
      have column := exists_mapM_eq_some.mp ⟨cs, made⟩ v inside
      rw [empty.toColumn?] at column
      cases column
    | groupBy columns =>
      cases entries
      obtain ⟨-, names, -⟩ := planGroupBy_eq_ok.mp planned
      have name := names v inside
      rw [empty.isName] at name
      cases name
    | orderBy items =>
      cases entries
      obtain ⟨-, sorted, made, -⟩ := planOrderBy_eq_ok.mp planned
      obtain ⟨e, failed⟩ := sortItems_isError (r := ctx.resolver) inside empty
      rw [failed] at made
      cases made
    | _ => cases entries

end Builder

end SelectBuilder
