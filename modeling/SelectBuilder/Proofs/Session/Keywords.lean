import SelectBuilder.Proofs.Builder.Keywords
import SelectBuilder.Proofs.Session.Entries

/-!
# Keywords in a session

The type of a join and the direction of an ordering are strings that spell a keyword in any case. A
step with such a string adds a clause with the keyword, and a step with any other string is refused.
-/
namespace SelectBuilder

namespace Session

variable {s : Session} {x : Step} {id : Nat} {b : Builder} {c : Call}

theorem refused_of_plan {e : Failure} (found : s.store.builders[id]? = some b)
    (asked : s.request? x = some (id, c)) (planned : b.plan (s.store.contextOf b) c = .error e) :
    (s.step x).1 = s ∧ (s.step x).2.outcome = .error e :=
  step_refused asked (Store.call_eq_error found planned)

/-- The step succeeds for the spellings of a keyword alone. Then it adds a clause that shows the
keyword, and otherwise it changes nothing and fails for a cause that may show the string. -/
structure Recognises {Keyword : Type} (s : Session) (id : Nat) (x : Step) (t : String)
    (word : Keyword → String) (text : String → String) (cause : Misuse → Prop) : Prop where
  accepted : (s.step x).2.outcome.isOk ↔ ∃ k, Text.Spells t (word k)
  adds : ∀ k, Text.Spells t (word k) → ∃ clause, s.Appends id x clause (text (word k))
  refused : (¬∃ k, Text.Spells t (word k)) →
    (s.step x).1 = s ∧ ∃ m, cause m ∧ (s.step x).2.outcome = .error (.misuse m)

theorem Recognises.of_plan {Keyword : Type} {t : String} {word : Keyword → String}
    {text : String → String} {cause : Misuse → Prop} (found : s.store.builders[id]? = some b)
    (asked : s.request? x = some (id, c))
    (adds : ∀ k, Text.Spells t (word k) → ∃ clause,
      b.plan (s.store.contextOf b) c = .ok (.append clause) ∧
        ∀ r, clause.render r = .ok (text (word k)))
    (refused : (¬∃ k, Text.Spells t (word k)) →
      ∃ m, cause m ∧ b.plan (s.store.contextOf b) c = misuse m) :
    s.Recognises id x t word text cause := by
  have added : ∀ k, Text.Spells t (word k) → ∃ clause, s.Appends id x clause (text (word k)) := by
    intro k spells
    obtain ⟨clause, planned, written⟩ := adds k spells
    exact ⟨clause, .of_plan found asked planned written⟩
  have stopped : (¬∃ k, Text.Spells t (word k)) →
      (s.step x).1 = s ∧ ∃ m, cause m ∧ (s.step x).2.outcome = .error (.misuse m) := by
    intro unknown
    obtain ⟨m, hm, planned⟩ := refused unknown
    obtain ⟨same, answered⟩ := refused_of_plan found asked planned
    exact ⟨same, m, hm, answered⟩
  refine ⟨⟨fun succeeded => ?_, fun ⟨k, spells⟩ => ?_⟩, added, stopped⟩
  · by_contra unknown
    obtain ⟨-, m, -, answered⟩ := stopped unknown
    rw [answered] at succeeded
    cases succeeded
  · obtain ⟨clause, appended⟩ := added k spells
    rw [appended.answered]
    rfl

/-- Keywords are recognised in any case. With a target and a pair of columns as they should be, a
join succeeds if and only if its type is a string that spells a join type. With a column, an
ordering succeeds if and only if its direction is a string that spells one, unless it is empty. The
clause shows the keyword; the rest of it is the same for all spellings. Any other string is refused,
as information on a join or as the column of an ordering, and the session stays as it is. -/
theorem keywords_step (found : s.store.builders[id]? = some b) :
    (∀ target columns subquery, target.IsJoinTarget s.store.resolver → columns.IsNamePair →
      ∃ rest, ∀ x type t, s.request? x = some (id, .join type target columns subquery) →
        type.content? = some t →
        s.Recognises id x t JoinType.word (· ++ " JOIN " ++ rest) fun m =>
          ∃ shown, type.toText s.store.resolver = .ok shown ∧ m = .joinMalformed shown) ∧
    (∀ item column direction t, item.sequence? = some [column, direction] → column.isName →
      direction.content? = some t → t ≠ "" →
      ∃ text, column.toText s.store.resolver = .ok text ∧
        ∀ x, s.request? x = some (id, .orderBy [item]) →
          s.Recognises id x t SortDirection.word ("ORDER BY " ++ text ++ " " ++ ·)
            (· = .orderingMalformed)) ∧
    (∀ shown, (Misuse.joinMalformed shown).kind.name = "InvalidJoinInfoError" ∧
      (Misuse.joinMalformed shown).code?.map ErrorCode.number = some 1010) ∧
    Misuse.orderingMalformed.kind.name = "InvalidOrderColumnNameError" ∧
      Misuse.orderingMalformed.code?.map ErrorCode.number = some 1014 := by
  refine ⟨fun target columns subquery joined pair => ?_,
    fun item column direction t sequence name content filled => ?_,
    fun shown => ⟨rfl, rfl⟩, rfl, rfl⟩
  · obtain ⟨rest, spelled⟩ := Builder.planJoin_spelled joined pair subquery
    refine ⟨rest, fun x type t asked content => .of_plan found asked ?_ fun unknown => ?_⟩
    · exact (spelled type t content).1
    · obtain ⟨shown, text, planned⟩ := (spelled type t content).2 unknown
      exact ⟨_, ⟨shown, text, rfl⟩, planned⟩
  · obtain ⟨text, known, adds, refused⟩ :=
      Builder.planOrderBy_spelled (r := s.store.resolver) sequence name content filled
    refine ⟨text, known, fun x asked => .of_plan found asked adds fun unknown => ?_⟩
    exact ⟨_, rfl, refused unknown⟩

def joinUnder (type : String) : Step :=
  .call "b" "join" [.text type, .list [.text "t", .text "x"], .list [.text "a", .text "b"]] []

/-- A join type in mixed case is recognised, and one with a blank after it is not. -/
theorem keywords_step_mixed :
    (∃ rest clause, unfilled.Appends 0 (joinUnder "lEfT") clause ("LEFT" ++ " JOIN " ++ rest)) ∧
      (unfilled.step (joinUnder "left ")).1 = unfilled ∧
      ∃ clause, unfilled.Appends 0
        (.call "b" "order_by" [.tuple [.text "a", .direction .descending]] []) clause
        ("ORDER BY " ++ "a" ++ " " ++ "DESC") := by
  obtain ⟨joins, orders, -⟩ := @keywords_step unfilled 0 _ rfl
  obtain ⟨rest, recognises⟩ := joins (.list [.text "t", .text "x"]) (.list [.text "a", .text "b"])
    (.bool false) (.pair (.inl rfl) rfl rfl rfl) ⟨_, _, rfl, rfl, rfl⟩
  obtain ⟨text, known, directed⟩ := orders (.tuple [.text "a", .direction .descending]) (.text "a")
    (.direction .descending) "DESC" rfl rfl rfl (by decide)
  cases known
  refine ⟨⟨rest, (recognises (joinUnder "lEfT") (.text "lEfT") "lEfT" rfl rfl).adds .left
    (by decide)⟩, ?_, (directed _ rfl).adds .descending (by decide)⟩
  refine ((recognises (joinUnder "left ") (.text "left ") "left " rfl rfl).refused ?_).1
  rintro ⟨t, spells⟩
  revert spells
  cases t <;> decide

/-- A long s is taken for an s, although the text is no join type up to the case of ASCII
letters. -/
theorem long_s_recognised :
    (unfilled.step (joinUnder "ſelf")).2.outcome.isOk ∧
      ∀ t : JoinType, "ſelf".toList.map Char.toUpper ≠ t.word.toList := by
  constructor
  · decide +kernel
  · intro t
    cases t <;> decide

end Session

end SelectBuilder
