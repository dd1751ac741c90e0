import SelectBuilder.Proofs.Builder.Planning
import SelectBuilder.Proofs.Value.OperandText

/-!
# Spellings of operands

An operand is written in three ways: on the other side of a comparison, at an end of a range, and as
an item of a list. Numbers and literals come out alike in all of them. Nothing and the truth values
do not: only a comparison has keywords for them.
-/
namespace SelectBuilder

open Outcome

namespace Value

variable {r : Resolver} {v : Value}

/-- The text of an operand on the other side of a comparison. -/
def comparedText (r : Resolver) (v : Value) : Outcome String := do
  (← (← v.toLiteral r).render r).toText r

/-- The text of an operand at an end of a range. -/
def boundText (r : Resolver) (v : Value) : Outcome String := do (← v.toRaw r).toText r

/-- The characters of a text; what is none is refused. -/
def contentText (v : Value) : Outcome String :=
  match v.content? with
  | some t => .ok t
  | none => .error .wrongType

/-- The text of an operand as an item of a list. -/
def listedText (r : Resolver) (v : Value) : Outcome String := do (← v.toRaw r).contentText

/-- Nothing, a truth value, a number or a literal. -/
def IsPlain : Value → Prop
  | null => True
  | bool _ => True
  | int _ => True
  | double _ => True
  | decimal _ => True
  | code _ => True
  | number _ => True
  | quoted _ => True
  | raw _ => True
  | _ => False

/-- What SQL has a keyword for. -/
def IsKeyword : Value → Prop
  | null => True
  | bool _ => True
  | _ => False

theorem comparedText_null : null.comparedText r = .ok "NULL" := rfl

theorem comparedText_bool (b : Bool) :
    (bool b).comparedText r = .ok (if b then "TRUE" else "FALSE") := rfl

theorem boundText_null : null.boundText r = .ok "None" := rfl

theorem boundText_bool (b : Bool) : (bool b).boundText r = .ok (boolText b) := rfl

/-- A range and a comparison show the same text of an operand unless there is a keyword for it. -/
theorem boundText_eq_comparedText_iff (plain : v.IsPlain) :
    v.boundText r = v.comparedText r ↔ ¬ v.IsKeyword := by
  cases v with
  | null => simp [IsKeyword, boundText_null, comparedText_null]
  | bool b => cases b <;> simp [IsKeyword, boundText_bool, comparedText_bool, boolText]
  | int | double | decimal | code | number | quoted | raw => exact iff_of_true rfl id
  | _ => exact plain.elim

/-- What is not verbatim is written as some text. -/
theorem toRaw_cases (r : Resolver) (v : Value) :
    (∃ w, v = raw w) ∨ ∃ m : Outcome String, v.toRaw r = m >>= fun t => .ok (text t) := by
  cases v with
  | raw w => exact .inl ⟨w, rfl⟩
  | quoted w =>
    refine .inr ⟨(w.toText r).map fun t => "'" ++ t ++ "'", ?_⟩
    simp only [toRaw, render]
    cases w.toText r <;> rfl
  | number w => exact .inr ⟨w.toText r, rfl⟩
  | _ => exact .inr ⟨_, rfl⟩

/-- A list shows the same text of an operand as a range. Only what is verbatim and no string may
differ. -/
theorem listedText_eq_boundText (verbatim : ∀ w, v = raw w → w.IsString) :
    v.listedText r = v.boundText r := by
  rcases toRaw_cases r v with ⟨w, rfl⟩ | ⟨m, written⟩
  · rw [(verbatim w rfl).eq_text]
    rfl
  · simp only [listedText, boundText, written]
    cases m <;> rfl

theorem contentText_eq_ok {t : String} : v.contentText = .ok t ↔ v.content? = some t := by
  unfold contentText
  split <;> simp_all

/-- The items of a list have texts if and only if they are written as what has characters. -/
theorem mapM_listedText_eq_ok {vs : List Value} {ts : List String} :
    vs.mapM (listedText r) = .ok ts ↔
      ∃ ws, vs.mapM (toRaw r) = .ok ws ∧ ws.mapM content? = some ts := by
  induction vs generalizing ts with
  | nil => simp [pure, Except.pure]
  | cons v rest ih =>
    simp only [List.mapM_cons, bind_eq_ok, pure_eq_ok, listedText, contentText_eq_ok]
    constructor
    · rintro ⟨t, ⟨w, written, content⟩, ts', others, rfl⟩
      obtain ⟨ws, raws, contents⟩ := ih.mp others
      exact ⟨w :: ws, ⟨w, written, ws, raws, rfl⟩, by simp [content, contents]⟩
    · rintro ⟨_, ⟨w, written, ws, raws, rfl⟩, contents⟩
      rw [List.mapM_cons] at contents
      obtain ⟨t, content, contents⟩ := Option.bind_eq_some_iff.mp contents
      obtain ⟨ts', others, same⟩ := Option.bind_eq_some_iff.mp contents
      cases same
      exact ⟨t, ⟨w, written, content⟩, ts', ih.mpr ⟨ws, raws, others⟩, rfl⟩

end Value

/-- Texts with commas between them are empty for want of texts, or because the only one is. -/
theorem intercalate_eq_empty {ts : List String} :
    String.intercalate ", " ts = "" ↔ ts = [] ∨ ts = [""] := by
  match ts with
  | [] => simp
  | [t] => simp
  | t :: u :: rest =>
    have comma : (t ++ ", " ++ String.intercalate ", " (u :: rest)).length ≠ "".length := by
      simp [String.length_append]
    simp only [String.intercalate_cons_cons]
    constructor
    · exact fun empty => absurd (congrArg String.length empty) comma
    · simp

namespace Builder

variable {r : Resolver} {b : Builder} {v : Value}

theorem discard_requireCondition (current : b.current?.isSome) (r : Resolver) (operator : Value) :
    discard (b.requireCondition r operator) = .ok () :=
  discard_requireCondition_eq_ok.mpr current

theorem planCompare_eq {op : String} (current : b.current?.isSome)
    (known : op ∈ comparisonOperators) (v : Value) :
    b.planCompare r (.text op) v =
      (v.comparedText r).map fun t => .extend op (op ++ " " ++ t) .complete := by
  have isOne : (Value.text op).isOneOf comparisonOperators = .ok true := by
    simp [Value.isOneOf, Value.isHashable, known]
  simp only [planCompare, discard_requireCondition current, ok_bind, isOne, Value.toText_text,
    if_true, Value.comparedText]
  cases v.toLiteral r with
  | error e => rfl
  | ok l =>
    simp only [ok_bind]
    cases l.render r with
    | error e => rfl
    | ok w =>
      simp only [ok_bind]
      cases w.toText r <;> rfl

theorem planDiffer_eq {op : String} (current : b.current?.isSome)
    (known : op ∈ inequalityOperators) (v : Value) :
    b.planDiffer r v (.text op) =
      (v.comparedText r).map fun t => .extend op (op ++ " " ++ t) .complete := by
  have isOne : (Value.text op).isOneOf inequalityOperators = .ok true := by
    simp [Value.isOneOf, Value.isHashable, known]
  have compared : op ∈ comparisonOperators := List.mem_append_right _ known
  simp only [planDiffer, discard_requireCondition current, ok_bind, isOne, if_true,
    planCompare_eq current compared]

theorem planBetween_eq (current : b.current?.isSome) (negated : Bool) (low high : Value) :
    b.planBetween r negated low high =
      (do
        let l ← low.boundText r
        let h ← high.boundText r
        return .extend (negatable negated "BETWEEN")
          (negatable negated "BETWEEN" ++ " " ++ l ++ " AND " ++ h) .complete) := by
  simp only [planBetween, discard_requireCondition current, ok_bind, Value.boundText]
  cases low.toRaw r with
  | error e => rfl
  | ok w =>
    simp only [ok_bind]
    cases w.toText r with
    | error e => rfl
    | ok l =>
      simp only [ok_bind]
      cases high.toRaw r <;> rfl

theorem listInside_eq {vs : List Value} (sequence : v.sequence? = some vs) :
    listInside r v = (do return .text (← joinContents ", " (← vs.mapM (Value.toRaw r)))) := by
  cases v with
  | list | tuple => cases sequence; rfl
  | _ => cases sequence

/-- A list of items with texts is refused if nothing comes of putting them together. -/
theorem planWithin_eq (current : b.current?.isSome) (negated : Bool) {vs : List Value}
    {ts : List String} (sequence : v.sequence? = some vs)
    (texts : vs.mapM (Value.listedText r) = .ok ts) :
    b.planWithin r negated v =
      if ts = [] ∨ ts = [""] then misuse (.listEmpty (negatable negated "IN"))
      else .ok (.extend (negatable negated "IN")
        (negatable negated "IN" ++ " (" ++ String.intercalate ", " ts ++ ")") .complete) := by
  obtain ⟨ws, raws, contents⟩ := Value.mapM_listedText_eq_ok.mp texts
  have inside : listInside r v = .ok (.text (String.intercalate ", " ts)) := by
    simp only [listInside_eq sequence, raws, ok_bind, joinContents, contents]
    rfl
  simp only [planWithin, discard_requireCondition current, ok_bind, inside, Value.toText_text]
  by_cases empty : String.intercalate ", " ts = ""
  · have refused : (!(Value.text (String.intercalate ", " ts)).isTrue) = true := by simp [empty]
    rw [if_pos (intercalate_eq_empty.mp empty), if_pos refused]
  · have filled : ¬(!(Value.text (String.intercalate ", " ts)).isTrue) = true := by simp [empty]
    rw [if_neg (mt intercalate_eq_empty.mpr empty), if_neg filled]
    rfl

theorem planWithin_isError (negated : Bool) {vs : List Value} {e : Failure}
    (sequence : v.sequence? = some vs) (textless : vs.mapM (Value.listedText r) = .error e) :
    ∃ e', b.planWithin r negated v = .error e' := by
  cases planned : b.planWithin r negated v with
  | error e' => exact ⟨e', rfl⟩
  | ok change =>
    obtain ⟨-, inside, made, -⟩ := planWithin_eq_ok.mp planned
    rw [listInside_eq sequence] at made
    obtain ⟨ws, raws, made⟩ := bind_eq_ok.mp made
    obtain ⟨t, joined, -⟩ := bind_eq_ok.mp made
    unfold joinContents at joined
    split at joined
    · next ts contents =>
      rw [Value.mapM_listedText_eq_ok.mpr ⟨ws, raws, contents⟩] at textless
      cases textless
    · cases joined

end Builder

end SelectBuilder
