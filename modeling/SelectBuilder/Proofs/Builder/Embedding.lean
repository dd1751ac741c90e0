import SelectBuilder.Proofs.Outcome
import SelectBuilder.Builder.Call

/-!
# Embedded statements

Where a call takes a statement as a source, a list, an item or a bound, it takes its text at once.
The call is then the same as one with the text in place of the statement.
-/
namespace SelectBuilder

/-- A value that is made of items: a list, a tuple, a set or an iterator. -/
def Value.Gathers (make : List Value → Value) : Prop :=
  make = .list ∨ make = .tuple ∨ make = .set ∨ make = .iterator

/-- A value that is made of items and counts as a pair if there are two. -/
def Value.Pairs (make : List Value → Value) : Prop := make = .list ∨ make = .tuple

/-- The second call has the text of a statement where the first one has the statement. In a
comparison a text is meant as a literal, so that it has to be marked as raw there. -/
inductive Call.Embeds (id : Nat) (sql : String) : Call → Call → Prop where
  | source (aliasName : Value) :
      Embeds id sql (.sourceQuery (.reference (.builder id)) aliasName)
        (.sourceQuery (.text sql) aliasName)
  | union (all : Bool) :
      Embeds id sql (.union all (.reference (.builder id))) (.union all (.text sql))
  | within (negated : Bool) :
      Embeds id sql (.within negated (.reference (.builder id))) (.within negated (.text sql))
  | item (negated : Bool) {make : List Value → Value} (gathers : Value.Gathers make)
      (before after : List Value) :
      Embeds id sql (.within negated (make (before ++ .reference (.builder id) :: after)))
        (.within negated (make (before ++ .text sql :: after)))
  | low (negated : Bool) (high : Value) :
      Embeds id sql (.between negated (.reference (.builder id)) high)
        (.between negated (.text sql) high)
  | high (negated : Bool) (low : Value) :
      Embeds id sql (.between negated low (.reference (.builder id)))
        (.between negated low (.text sql))
  | pair (joinType aliasName on subquery : Value) {make : List Value → Value}
      (pairs : Value.Pairs make) :
      Embeds id sql (.join joinType (make [.reference (.builder id), aliasName]) on subquery)
        (.join joinType (make [.text sql, aliasName]) on subquery)
  | table (joinType aliasName isSubquery on subquery : Value) :
      Embeds id sql
        (.join joinType (.table (.reference (.builder id)) aliasName isSubquery) on subquery)
        (.join joinType (.table (.text sql) aliasName isSubquery) on subquery)
  | compare (operator : Value) :
      Embeds id sql (.compare operator (.reference (.builder id)))
        (.compare operator (.raw (.text sql)))
  | differ (operator : Value) :
      Embeds id sql (.differ (.reference (.builder id)) operator)
        (.differ (.raw (.text sql)) operator)

namespace Value

variable {r : Resolver} {id : Nat} {sql : String}

theorem embedded_builder (shown : r.statement id = .ok sql) :
    (reference (.builder id)).embedded r = (text sql).embedded r := by
  simp [embedded, shown, pure, Except.pure]

theorem toRaw_builder (shown : r.statement id = .ok sql) :
    (reference (.builder id)).toRaw r = (text sql).toRaw r := by
  simp [toRaw, shown, pure, Except.pure]

/-- In a comparison the text is verbatim. -/
theorem toLiteral_builder (shown : r.statement id = .ok sql) :
    (reference (.builder id)).toLiteral r = (raw (text sql)).toLiteral r := by
  simp [toLiteral, shown, pure, Except.pure]

/-- An item may be replaced by one that reads the same as an operand. -/
theorem mapM_toRaw_congr {v w : Value} (same : v.toRaw r = w.toRaw r) (before after : List Value) :
    (before ++ v :: after).mapM (toRaw r) = (before ++ w :: after).mapM (toRaw r) := by
  simp only [List.mapM_append, List.mapM_cons, same]

end Value

namespace Builder

variable {r : Resolver} {id : Nat} {sql : String}

theorem listInside_builder (shown : r.statement id = .ok sql) :
    listInside r (.reference (.builder id)) = listInside r (.text sql) := by
  simp [listInside, shown, pure, Except.pure, Value.isText]

theorem listInside_item {make : List Value → Value} (gathers : Value.Gathers make) {v w : Value}
    (same : v.toRaw r = w.toRaw r) (before after : List Value) :
    listInside r (make (before ++ v :: after)) = listInside r (make (before ++ w :: after)) := by
  have items := Value.mapM_toRaw_congr same before after
  rcases gathers with rfl | rfl | rfl | rfl <;>
    simp [listInside, Value.isText, Value.content?, Value.items?, items]

theorem joinTarget?_pair {make : List Value → Value} (pairs : Value.Pairs make) {v w : Value}
    (same : v.embedded r = w.embedded r) (aliasName subquery : Value) :
    joinTarget? r (make [v, aliasName]) subquery =
      joinTarget? r (make [w, aliasName]) subquery := by
  rcases pairs with rfl | rfl <;> simp [joinTarget?, Value.sequence?, same]

/-- Whatever the builder is, the plan is the same, be it a change or a failure. -/
theorem plan_embeds {ctx : Context} (shown : ctx.resolver.statement id = .ok sql) {c c' : Call}
    (h : c.Embeds id sql c') (b : Builder) : b.plan ctx c = b.plan ctx c' := by
  have embedded := Value.embedded_builder shown
  have raw := Value.toRaw_builder shown
  cases h with
  | source aliasName => simp only [plan, planSourceQuery, embedded]
  | union all => simp only [plan, planUnion, embedded]
  | within negated => simp only [plan, planWithin, listInside_builder shown]
  | item negated gathers before after =>
    simp only [plan, planWithin, listInside_item gathers raw before after]
  | low negated high => simp only [plan, planBetween, raw]
  | high negated low => simp only [plan, planBetween, raw]
  | pair joinType aliasName on subquery pairs =>
    simp only [plan, planJoin, joinTarget?_pair pairs embedded aliasName subquery]
  | table joinType aliasName isSubquery on subquery =>
    simp only [plan, planJoin, joinTarget?, embedded]
  | compare operator => simp only [plan, planCompare, Value.toLiteral_builder shown]
  | differ operator => simp only [plan, planDiffer, planCompare, Value.toLiteral_builder shown]

end Builder

end SelectBuilder
