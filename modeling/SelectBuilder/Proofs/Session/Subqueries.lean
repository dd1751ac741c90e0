import SelectBuilder.Proofs.Builder.Subqueries
import SelectBuilder.Proofs.Session.Conditions

/-!
# Joins of subqueries in a session

However the join of a subquery is written down, the session makes the same step. It adds one clause
if the join is well formed, and otherwise changes nothing.
-/
namespace SelectBuilder

open Outcome

namespace Session

/-- In any session let a builder be asked to join a subquery, whose source, if it is a statement,
has a text. All ways to write the join down make the same step. The step succeeds if and only if the
type is known, the text and the name are texts that are not empty, and the columns are a pair of
such texts. Then it adds one clause, whose text is known if no keywords are among the operands.
Otherwise nothing changes, and the join is refused by its type, which, if it is none that is known,
must be such that it can be shown. -/
theorem subquery_join_step {s : Session} {on : String} {id : Nat} {b : Builder}
    (bound : s.names.lookup on = some (.builder id))
    (found : s.store.builders[id]? = some b) {type source sql aliasName columns : Value}
    (embeds : source.embedded s.store.resolver = .ok sql) :
    (∃ target, s.store.helper "subquery" [source, aliasName] = .ok target) ∧
    ∀ method args named, s.store.SubqueryJoin type source aliasName columns method args named →
      s.step (.call on method args named) =
          s.step (.call on "join" [type, .tuple [source, aliasName], columns]
            [("subquery", .bool true)]) ∧
      ((s.step (.call on method args named)).2.outcome.isOk ↔
        (∃ t, type.Denotes t) ∧ Builder.WellJoined sql aliasName columns) ∧
      (∀ t text name left right, type.Denotes t → sql = .text text → aliasName = .text name →
        columns.sequence? = some [.text left, .text right] →
        text ≠ "" → name ≠ "" → left ≠ "" → right ≠ "" →
        ∃ b' clause, (s.step (.call on method args named)).1.store = s.store.setBuilder id b' ∧
          b'.clauses = b.clauses ++ [clause] ∧
          clause.render (s.step (.call on method args named)).1.store.resolver =
            .ok (t.word ++ " JOIN ( " ++ text ++ " ) AS " ++ name ++ " ON " ++ right ++ " = " ++
              left)) ∧
      ((s.step (.call on method args named)).2.outcome.isOk = false →
        (s.step (.call on method args named)).1 = s ∧
        (∀ t, type.Denotes t → (s.step (.call on method args named)).2.outcome =
          .error (.misuse (.joinMalformed t.word))) ∧
        (∀ text, (¬∃ t, type.Denotes t) → type.Shows s.store.resolver text →
          (s.step (.call on method args named)).2.outcome =
            .error (.misuse (.joinMalformed text))) ∧
        ∀ text, (Misuse.joinMalformed text).code?.map ErrorCode.number = some 1010) := by
  have fixed := Value.embedded_embedded embeds
  refine ⟨⟨.table sql aliasName (.bool true), ?_⟩, fun method args named spelled => ?_⟩
  · simp only [Store.helper, Store.subquery, embeds, ok_bind]
    rfl
  obtain ⟨c, made, plan⟩ := Builder.plan_subqueryJoin embeds spelled
  have asked : s.request? (.call on method args named) = some (id, c) :=
    request?_call_eq_some.mpr ⟨bound, made⟩
  have outcome := step_request bound found made
  rw [plan] at outcome
  have accepted : (s.step (.call on method args named)).2.outcome.isOk ↔
      (∃ t, type.Denotes t) ∧ Builder.WellJoined sql aliasName columns := by
    rw [outcome, isOk_map, isOk_iff]
    simp only [Builder.planSubqueryJoin_eq_ok fixed]
    constructor
    · rintro ⟨change, t, denotes, source, named, left, right, sequence, hl, hr, -⟩
      exact ⟨⟨t, denotes⟩, source, named, left, right, sequence, hl, hr⟩
    · rintro ⟨⟨t, denotes⟩, source, named, left, right, sequence, hl, hr⟩
      exact ⟨_, t, denotes, source, named, left, right, sequence, hl, hr, rfl⟩
  refine ⟨?_, accepted, ?_, fun refused =>
    ⟨?_, fun t denotes => ?_, fun text unknown shows => ?_, fun text => rfl⟩⟩
  · have paired : s.store.SubqueryJoin type source aliasName columns "join"
        [type, .tuple [source, aliasName], columns] [("subquery", .bool true)] :=
      .flagged (.pair (.inr rfl))
    obtain ⟨c', made', plan'⟩ := Builder.plan_subqueryJoin embeds paired
    exact step_congr bound made made' fun d => (plan d d).trans (plan' d d).symm
  · rintro t text name left right denotes rfl rfl sequence filled named hl hr
    have planned :
        Builder.planSubqueryJoin s.store.resolver type (.text text) (.text name) columns =
          .ok (.append (.join t ⟨.text text, .text name, .bool true⟩ (.text left) (.text right))) :=
      (Builder.planSubqueryJoin_eq_ok fixed).mpr ⟨t, denotes, by simpa using filled,
        by simpa using named, _, _, sequence, by simpa using hl, by simpa using hr, rfl⟩
    have called := Store.call_eq_ok.mpr ⟨b, _, found, (plan b b).trans planned, rfl, rfl⟩
    refine ⟨_, _, (step_called asked called).1, ?_,
      Builder.render_subqueryJoin _ t text named left right⟩
    simp [Builder.apply, Builder.enter, Builder.settle]
  · cases planned : b.plan (s.store.contextOf b) c with
    | ok change =>
      rw [outcome, ← plan b b, planned] at refused
      cases refused
    | error e => exact (step_refused asked (Store.call_eq_error found planned)).1
  · have malformed : ¬Builder.WellJoined sql aliasName columns := fun joined => by
      rw [accepted.mpr ⟨⟨t, denotes⟩, joined⟩] at refused
      cases refused
    rw [outcome, Builder.planSubqueryJoin_malformed fixed denotes malformed]
    rfl
  · rw [outcome, Builder.planSubqueryJoin_unknown unknown shows]
    rfl

/-- A statement with columns, and one that waits for a join. -/
def joining : Session :=
  initial.run [.new "b" (.fields []), .call "b" "select" [.text "id"] [], .new "q" (.fields [])]

def leftJoin : Step :=
  .call "q" "left_join_sub" [.tuple [.reference (.builder 0), .text "x"],
    .list [.text "a", .text "b"]] []

def outerJoin : Step :=
  .call "q" "join" [.text "outer", .table (.text "SELECT 1") (.text "x") (.bool true),
    .list [.text "a", .text "b"]] []

/-- A statement is joined by the method for left joins. Under a word that is no join type the join
is refused. -/
theorem subquery_join_step_left :
    (∃ b' clause, (joining.step leftJoin).1.store = joining.store.setBuilder 1 b' ∧
      b'.clauses = [clause] ∧ clause.render (joining.step leftJoin).1.store.resolver =
        .ok "LEFT JOIN ( SELECT id ) AS x ON b = a") ∧
    (joining.step outerJoin).2.outcome = .error (.misuse (.joinMalformed "outer")) := by
  have text : joining.store.resolver.statement 0 = .ok "SELECT id" := by decide +kernel
  have embeds : (Value.reference (.builder 0)).embedded joining.store.resolver =
      .ok (.text "SELECT id") := Value.embedded_builder text
  obtain ⟨-, known⟩ := @subquery_join_step joining "q" 1 _ rfl rfl (.joinType .left) _ _
    (.text "x") (.list [.text "a", .text "b"]) embeds
  obtain ⟨-, -, adds, -⟩ := known "left_join_sub" _ _ (.fixed rfl (.pair (.inr rfl)))
  obtain ⟨-, unknown⟩ := @subquery_join_step joining "q" 1 _ rfl rfl (.text "outer")
    (.text "SELECT 1") _ (.text "x") (.list [.text "a", .text "b"]) rfl
  obtain ⟨-, accepted, -, refused⟩ := unknown "join" _ _ .marked
  have none : ¬∃ t, (Value.text "outer").Denotes t := by
    rintro ⟨t, denotes⟩
    have known := Value.denotes_iff.mpr denotes
    rw [show (Value.text "outer").content?.bind (fun s => JoinType.ofWord? (Text.upper s)) =
      Option.none by decide +kernel] at known
    cases known
  have failed : (joining.step outerJoin).2.outcome.isOk = false :=
    Bool.eq_false_iff.mpr fun ok => none (accepted.mp ok).1
  refine ⟨?_, (refused failed).2.2.1 "outer" none ⟨nofun, rfl⟩⟩
  exact adds .left "SELECT id" "x" "a" "b" (.inl rfl) rfl rfl rfl (by decide) (by decide)
    (by decide) (by decide)

/-- A problem whose code is no number and cannot be shown. -/
def unshown : Value :=
  .problem ⟨.coded .invalidAlias, "InvalidAliasError", "m", [], some (.other (.error .wrongType))⟩

/-- In place of a join type it is not refused as one: showing it fails first. -/
theorem subquery_join_unshown :
    (joining.step (.call "q" "join" [unshown, .tuple [.text "SELECT 1", .text "x"],
      .list [.text "a", .text "b"]] [("subquery", .bool true)])).2.outcome =
        .error .wrongType ∧
    ¬∃ text, (joining.step (.call "q" "join" [unshown, .tuple [.text "SELECT 1", .text "x"],
      .list [.text "a", .text "b"]] [("subquery", .bool true)])).2.outcome =
        .error (.misuse (.joinMalformed text)) := by
  have failed : (joining.step (.call "q" "join" [unshown, .tuple [.text "SELECT 1", .text "x"],
      .list [.text "a", .text "b"]] [("subquery", .bool true)])).2.outcome =
        .error .wrongType := rfl
  refine ⟨failed, ?_⟩
  rintro ⟨text, same⟩
  rw [failed] at same
  cases same

end Session

end SelectBuilder
