import SelectBuilder.Proofs.Outcome
import SelectBuilder.Proofs.Text.Trimming
import SelectBuilder.Value.Problems

/-!
# Messages of problems

A problem keeps the message that it is made with as its detail. Its text is the message too, but for
the blanks at its ends. The base class keeps the texts of its operands in the same way.
-/
namespace SelectBuilder

open Outcome

/-- The ways to give a message and optionally a code to a class of problems. -/
inductive ProblemOperands.Carries (m : String) (code : Option ErrorCode) :
    ProblemOperands → Prop where
  | first : Carries m code { args := [.text m], code := code }
  | named : Carries m code { message := some (.text m), code := code }
  | second : Carries m code { args := [.text m, code.elim .null .code] }

namespace Problem

variable {r : Resolver} {kind : ProblemClass} {title m : String} {fallback : Option String}
  {code : Option ErrorCode} {o : ProblemOperands}

/-- The texts of the operands that count as true, in their order. -/
def HasTexts (r : Resolver) (args : List Value) (ts : List String) : Prop :=
  List.Forall₂ (fun v t => v.toText r = .ok t) (args.filter Value.isTrue) ts

theorem textsOf_eq_ok {args : List Value} {ts : List String} :
    textsOf r args = .ok ts ↔ HasTexts r args ts := by
  rw [textsOf, HasTexts]
  generalize args.filter Value.isTrue = vs
  induction vs generalizing ts with
  | nil => simp [pure, Except.pure, eq_comm]
  | cons v rest ih =>
    rw [List.mapM_cons, bind_eq_ok, List.forall₂_cons_left_iff]
    simp only [bind_eq_ok, pure_eq_ok, ih]
    constructor
    · rintro ⟨t, text, us, others, rfl⟩
      exact ⟨t, us, text, others, rfl⟩
    · rintro ⟨t, us, text, others, rfl⟩
      exact ⟨t, text, us, others, rfl⟩

/-- One text becomes the detail, whether it is empty or not. -/
theorem make_single (kind : ProblemClass) (title m : String) (fallback : Option String)
    (code : Option ProblemCode) :
    make kind title "" [m] fallback code = ⟨kind, title, m, [], code⟩ := rfl

theorem text_of_alone {p : Problem} (h : p.others = []) : p.text = Text.trim p.detail := by
  simp [text, h]

theorem messageAndCode_of_carries (h : o.Carries m code) :
    messageAndCode o = .ok (.text m, code.map .listed) := by
  cases h with
  | first => rfl
  | named => rfl
  | second => cases code <;> rfl

/-- Every class but the base class makes a problem with the message as its only text. -/
theorem ofOperands_of_carries (special : kind ≠ .base) (filled : m ≠ "") (h : o.Carries m code)
    (taken : kind = .parsing → o.code = none ∧ o.args.length ≤ 1) :
    ofOperands r kind title fallback o =
      .ok ⟨kind, title, m, [], (code.or kind.code?).map .listed⟩ := by
  have undetailed : o.detail = none := by cases h <;> rfl
  have unrefused :
      ¬(o.detail.isSome || (kind == .parsing && (o.code.isSome || 1 < o.args.length))) := by
    by_cases parsing : kind = .parsing
    · obtain ⟨uncoded, short⟩ := taken parsing
      simp [undetailed, uncoded, short]
    · simp [undetailed, parsing]
  have counts : (Value.text m).isTrue := by simpa using filled
  have texts : textsOf r [.text m] = .ok [m] := by
    rw [textsOf_eq_ok, HasTexts, List.filter_cons_of_pos counts]
    exact .cons rfl .nil
  have unfolded : ofOperands r kind title fallback o =
      (do
        let given ← messageAndCode o
        let message := if given.1.isNull then .text kind.defaultMessage else given.1
        return make kind title "" (← textsOf r [message]) fallback
          (given.2.or (kind.code?.map .listed))) := by
    cases kind with
    | base => exact absurd rfl special
    | _ => exact if_neg unrefused
  rw [unfolded, messageAndCode_of_carries h]
  simp [Value.isNull, texts, make_single, Option.map_or, pure, Except.pure]

theorem quoted_listed (detail : String) (others : List String) (code : Option ErrorCode)
    (filled : detail ≠ "") :
    (⟨kind, title, detail, others, code.map .listed⟩ : Problem).quoted =
      .ok (title ++ (code.elim "" fun c => "[" ++ Number.natText c.number ++ "]") ++ " - " ++
        detail) := by
  cases code with
  | none => simp [quoted, filled]
  | some c => simp [quoted, ProblemCode.numberText, String.append_assoc, pure, Except.pure]

/-- The base class takes any operands that have texts, and a detail that is a text. -/
theorem ofOperands_base {detail : String} (nameless : o.message = none) (uncoded : o.code = none)
    (given : (o.detail.getD (.text "")).content? = some detail) {p : Problem} :
    ofOperands r .base title fallback o = .ok p ↔
      ∃ ts, HasTexts r o.args ts ∧ make .base title detail ts fallback none = p := by
  have detailed : ∀ replaceable, detailOf (o.detail.getD (.text "")) replaceable = .ok detail := by
    intro replaceable
    rw [detailOf, given]
  simp [ofOperands, nameless, uncoded, detailed, bind_eq_ok, textsOf_eq_ok]

/-- A problem of any class but the base class, made with a message that is not empty and optionally
with a code, keeps the message as its detail and has no further texts. Its text is the message
without the blanks at its ends, hence the message itself if it has none there, and its quoted form
shows the whole message after the code in effect. A problem of the base class keeps the texts of
the operands that count as true before the detail; without a detail the first of them takes its
place, and without both the fallback does. Its text is all of them with spaces between them, again
without the blanks at the ends. -/
theorem message_kept :
    (∀ (r : Resolver) (kind : ProblemClass) (title m : String) (fallback : Option String)
      (code : Option ErrorCode) (o : ProblemOperands), kind ≠ .base → m ≠ "" →
      o.Carries m code → (kind = .parsing → o.code = none ∧ o.args.length ≤ 1) →
      ∃ p, ofOperands r kind title fallback o = .ok p ∧ p.detail = m ∧ p.others = [] ∧
        p.code = (code.or kind.code?).map .listed ∧
        Text.Trims m p.text ∧ (p.text = m ↔ Text.IsTrimmed m) ∧
        p.quoted = .ok (title ++
          ((code.or kind.code?).elim "" fun c => "[" ++ Number.natText c.number ++ "]") ++
            " - " ++ m)) ∧
    ∀ (r : Resolver) (title : String) (fallback : Option String) (detail : String)
      (o : ProblemOperands), o.message = none → o.code = none →
      (o.detail.getD (.text "")).content? = some detail →
      ((∃ p, ofOperands r .base title fallback o = .ok p) ↔ ∃ ts, HasTexts r o.args ts) ∧
      ∀ ts, HasTexts r o.args ts → ∃ p, ofOperands r .base title fallback o = .ok p ∧
        (detail ≠ "" → p.others = ts ∧ p.detail = detail) ∧
        (detail = "" → ∀ first rest, ts = first :: rest → p.others = rest ∧ p.detail = first) ∧
        (detail = "" → ts = [] → p.others = [] ∧ p.detail = fallback.getD "") ∧
        Text.Trims (String.intercalate " " (p.others ++ [p.detail])) p.text := by
  constructor
  · intro r kind title m fallback code o special filled carries taken
    refine ⟨_, ofOperands_of_carries special filled carries taken, rfl, rfl, rfl, ?_, ?_,
      quoted_listed m [] _ filled⟩
    · rw [text_of_alone rfl]
      exact Text.trims_trim m
    · rw [text_of_alone rfl]
      exact Text.trim_eq_self
  · intro r title fallback detail o nameless uncoded given
    refine ⟨?_, fun ts texts => ?_⟩
    · simp only [ofOperands_base nameless uncoded given]
      exact ⟨fun ⟨_, ts, texts, _⟩ => ⟨ts, texts⟩, fun ⟨ts, texts⟩ => ⟨_, ts, texts, rfl⟩⟩
    · refine ⟨_, (ofOperands_base nameless uncoded given).mpr ⟨ts, texts, rfl⟩, fun filled => ?_,
        ?_, ?_, Text.trims_trim _⟩
      · simp [make, filled]
      · rintro rfl first rest rfl
        exact ⟨rfl, rfl⟩
      · rintro rfl rfl
        exact ⟨rfl, rfl⟩

/-- No statements and no settings are referred to. -/
def unreferring : Resolver := ⟨fun _ => .error .unknownObject, fun _ => .error .unknownObject⟩

/-- A code takes the place of the one of the class. What counts as false is passed over, and the
first text of the others is the detail. -/
theorem message_kept_samples :
    (∃ p, ofOperands unreferring (.coded .invalidAlias) "InvalidAliasError" none
        { args := [.text "No alias."], code := some .invalidPattern } = .ok p ∧
      p.text = "No alias." ∧ p.quoted = .ok "InvalidAliasError[1009] - No alias.") ∧
    ∃ p, ofOperands unreferring .base "QueryChainError" none
        { args := [.int 0, .text "a", .int 5] } = .ok p ∧ p.others = ["5"] ∧ p.detail = "a" := by
  obtain ⟨p, made, -, -, -, -, same, shown⟩ := message_kept.1 unreferring (.coded .invalidAlias)
    "InvalidAliasError" "No alias." none (some .invalidPattern) _ nofun (by decide) .first nofun
  obtain ⟨-, kept⟩ := message_kept.2 unreferring "QueryChainError" none ""
    { args := [.int 0, .text "a", .int 5] } rfl rfl rfl
  obtain ⟨q, made', -, moved, -⟩ := kept ["a", "5"] (.cons rfl (.cons rfl .nil))
  obtain ⟨others, detail⟩ := moved rfl "a" ["5"] rfl
  exact ⟨⟨p, made, same.mpr (Text.trim_eq_self.mp (by decide)), shown⟩, q, made', others, detail⟩

/-- The text of a problem is not its message if that begins with a blank, although the detail is. -/
theorem message_trimmed :
    ∃ p, ofOperands unreferring (.coded .invalidAlias) "InvalidAliasError" none
        { args := [.text " a"] } = .ok p ∧ p.detail = " a" ∧ p.text ≠ " a" :=
  ⟨_, rfl, rfl, by decide⟩

end Problem

end SelectBuilder
