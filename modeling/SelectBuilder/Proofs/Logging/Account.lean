import SelectBuilder.Proofs.Builder.Operators
import SelectBuilder.Proofs.Logging.StatementRecord

/-!
# What records say

The records of builders by what they say: that a clause was added and how many there are now, that a
condition was extended and by which operator, and what a finished statement is.
-/
namespace SelectBuilder

open Outcome

namespace Logging

namespace Record

/-- A debugging record of the builders with a message and fields. -/
structure Says (x : Record) (message : String) (fields : List (String × Value)) : Prop where
  logger : x.logger = builderName
  level : x.level = debugLevel
  message : ∀ r, x.message r = .ok message
  fields : x.fields = fields

/-- The keyword of the clause that a record says was added. -/
def appended? (x : Record) : Option String :=
  if x.template = "Appended %s clause" then x.args.head?.bind Value.content? else none

def tagged (id : Option String) (x : Record) : Record := { x with correlation := id }

@[simp] theorem appended?_tagged (id : Option String) (x : Record) :
    (x.tagged id).appended? = x.appended? := rfl

theorem Says.tagged {x : Record} {message : String} {fields : List (String × Value)}
    (h : x.Says message fields) (id : Option String) : (x.tagged id).Says message fields :=
  ⟨h.logger, h.level, h.message, h.fields⟩

end Record

/-- The record of a clause that was added, with how many there are then. -/
def added (keyword : String) (count : Nat) : Record where
  logger := builderName
  level := debugLevel
  template := "Appended %s clause"
  args := [.text keyword]
  fields := [("clause", .text keyword), ("clause_count", .int count)]

/-- The record of a condition that was extended. -/
def extended (keyword operator : String) : Record where
  logger := builderName
  level := debugLevel
  template := "Extended %s clause with %s"
  args := [.text keyword, .text operator]
  fields := [("clause", .text keyword)]

theorem added_presentable (clause : Clause) : (added clause.keyword 1).Presentable :=
  Builder.recordOf_presentable { config := 0 } { config := 0, clauses := [clause] } (.append clause)

theorem says_added (keyword : String) (count : Nat) :
    (added keyword count).Says ("Appended " ++ keyword ++ " clause")
      [("clause", .text keyword), ("clause_count", .int count)] :=
  ⟨rfl, rfl, fun r => fill_appended r keyword, rfl⟩

theorem says_extended (keyword operator : String) :
    (extended keyword operator).Says ("Extended " ++ keyword ++ " clause with " ++ operator)
      [("clause", .text keyword)] :=
  ⟨rfl, rfl, fun r => fill_extended r keyword operator, rfl⟩

theorem says_shown (sql : String) (dialect : Value) :
    (shown sql dialect).Says "Rendered statement" [("sql", .text sql), ("dialect", dialect)] :=
  ⟨rfl, rfl, fun _ => rfl, rfl⟩

@[simp] theorem appended?_added (keyword : String) (count : Nat) :
    (added keyword count).appended? = some keyword := rfl

@[simp] theorem appended?_extended (keyword operator : String) :
    (extended keyword operator).appended? = none := rfl

@[simp] theorem appended?_shown (sql : String) (dialect : Value) :
    (shown sql dialect).appended? = none := rfl

end Logging

theorem Clause.plain_keyword (c : Clause) : Text.marker ∉ c.keyword.toList := by
  have plain : ∀ w ∈ ["SELECT", "FROM", "WHERE", "HAVING", "JOIN", "GROUP BY", "ORDER BY", "LIMIT",
      "UNION"], Text.marker ∉ w.toList := by decide
  cases c with
  | condition kind => cases kind <;> exact plain _ (by simp [keyword, ConditionKind.keyword])
  | _ => exact plain _ (by simp [keyword])

namespace Builder

theorem recordOf_extend {before : Builder} {c : Clause} (current : before.current? = some c)
    (during : Builder) (op part : String) (stage : Stage) :
    before.recordOf during (.extend op part stage) = Logging.extended c.keyword op := by
  simp [recordOf, current, Logging.extended]

variable {before : Builder} {ctx : Context} {c : Call}

/-- An operator is named in the record as it would be named if there were no condition for it. -/
theorem sign_of_extend {op part : String} {stage : Stage}
    (planned : before.plan ctx c = .ok (.extend op part stage)) :
    c.sign.toText ctx.resolver = .ok op := by
  cases c with
  | compare operator value =>
    obtain ⟨-, -, op, word, v, -, w, -, t, -, same⟩ := planCompare_eq_ok.mp planned
    cases same
    exact word
  | differ value operator =>
    obtain ⟨-, -, planned⟩ := planDiffer_eq_ok.mp planned
    obtain ⟨-, -, op, word, v, -, w, -, t, -, same⟩ := planCompare_eq_ok.mp planned
    cases same
    exact word
  | connect word column =>
    obtain ⟨-, -, -, t, -, same⟩ := planConnect_eq_ok.mp planned
    cases same
    rfl
  | like negated pattern =>
    obtain ⟨-, -, v, -, t, -, same⟩ := planLike_eq_ok.mp planned
    cases same
    rfl
  | between negated low high =>
    obtain ⟨-, v, -, l, -, w, -, t, -, same⟩ := planBetween_eq_ok.mp planned
    cases same
    rfl
  | within negated values =>
    obtain ⟨-, inside, -, -, t, -, same⟩ := planWithin_eq_ok.mp planned
    cases same
    rfl
  | isNull negated =>
    obtain ⟨-, same⟩ := planIsNull_eq_ok.mp planned
    cases same
    rfl
  | _ =>
    rcases plan_change planned with ⟨kind, op', part', operator, -⟩ | ⟨clause, -, same, -⟩
    · cases operator
    · cases same

/-- No operator is named by more than plain characters. -/
theorem plain_of_isOneOf {operator : Value} {r : Resolver} {op : String}
    (isOne : operator.isOneOf comparisonOperators = .ok true)
    (word : operator.toText r = .ok op) : Text.marker ∉ op.toList := by
  have plain : ∀ w ∈ comparisonOperators, Text.marker ∉ w.toList := by decide
  unfold Value.isOneOf at isOne
  split at isOne
  · cases isOne
  · split at isOne
    · have known := Except.ok.inj isOne
      cases operator with
      | text s =>
        cases word
        exact plain _ (by simpa [Value.content?] using known)
      | joinType t =>
        cases word
        cases t <;> decide
      | direction d =>
        cases word
        cases d <;> decide
      | _ => cases known
    · cases isOne

theorem plain_of_extend {op part : String} {stage : Stage}
    (planned : before.plan ctx c = .ok (.extend op part stage)) : Text.marker ∉ op.toList := by
  cases c with
  | compare operator value =>
    obtain ⟨-, isOne, op, word, v, -, w, -, t, -, same⟩ := planCompare_eq_ok.mp planned
    cases same
    exact plain_of_isOneOf isOne word
  | differ value operator =>
    obtain ⟨-, -, planned⟩ := planDiffer_eq_ok.mp planned
    obtain ⟨-, isOne, op, word, v, -, w, -, t, -, same⟩ := planCompare_eq_ok.mp planned
    cases same
    exact plain_of_isOneOf isOne word
  | connect word column =>
    obtain ⟨-, -, -, t, -, same⟩ := planConnect_eq_ok.mp planned
    cases same
    cases word <;> decide
  | like negated pattern =>
    obtain ⟨-, -, v, -, t, -, same⟩ := planLike_eq_ok.mp planned
    cases same
    cases negated <;> decide
  | between negated low high =>
    obtain ⟨-, v, -, l, -, w, -, t, -, same⟩ := planBetween_eq_ok.mp planned
    cases same
    cases negated <;> decide
  | within negated values =>
    obtain ⟨-, inside, -, -, t, -, same⟩ := planWithin_eq_ok.mp planned
    cases same
    cases negated <;> decide
  | isNull negated =>
    obtain ⟨-, same⟩ := planIsNull_eq_ok.mp planned
    cases same
    cases negated <;> decide
  | _ =>
    rcases plan_change planned with ⟨kind, op', part', operator, -⟩ | ⟨clause, -, same, -⟩
    · cases operator
    · cases same

end Builder

end SelectBuilder
