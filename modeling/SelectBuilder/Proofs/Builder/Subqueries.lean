import SelectBuilder.Proofs.Builder.CallText
import SelectBuilder.Proofs.Builder.Embedding
import SelectBuilder.Store.Factory

/-!
# Joins of subqueries

A subquery is joined under a name. What is joined can be given as a pair or as a table, and it can
be marked as a subquery in the call or in the table; the plan is the same in every case.
-/
namespace SelectBuilder

open Outcome

/-- The value is a join type, or the word for one in any case. -/
def Value.Denotes (v : Value) (type : JoinType) : Prop :=
  v = .joinType type ∨ ∃ word, v = .text word ∧ Text.upper word = type.word

/-- What is refused as a join type can be shown. That it has a wrong value in it does not count
against its quoted form. -/
def Value.Shows (r : Resolver) (v : Value) (text : String) : Prop :=
  (∀ e, v.quotedForm r.quoted = .error e → e = .wrongValue) ∧ v.toText r = .ok text

/-- The methods that join a subquery under a fixed join type. -/
def JoinType.subqueryMethod : JoinType → String
  | inner => "inner_join_sub"
  | left => "left_join_sub"
  | right => "right_join_sub"
  | full => "full_join_sub"
  | cross => "cross_join_sub"
  | self => "self_join_sub"
  | natural => "natural_join_sub"

/-- A target that is not marked as a subquery: a pair, or a table. -/
inductive Value.Targets (source aliasName : Value) : Value → Prop where
  | pair {make : List Value → Value} (pairs : Value.Pairs make) :
      Targets source aliasName (make [source, aliasName])
  | table : Targets source aliasName (.table source aliasName (.bool false))

/-- The ways to write down the join of a subquery, each a method with its operands. -/
inductive Store.SubqueryJoin (s : Store) (type source aliasName columns : Value) :
    String → List Value → List (String × Value) → Prop where
  | flagged {target : Value} (targets : source.Targets aliasName target) :
      SubqueryJoin s type source aliasName columns "join" [type, target, columns]
        [("subquery", .bool true)]
  | marked :
      SubqueryJoin s type source aliasName columns "join"
        [type, .table source aliasName (.bool true), columns] []
  | helped {target : Value} (made : s.helper "subquery" [source, aliasName] = .ok target) :
      SubqueryJoin s type source aliasName columns "join" [type, target, columns] []
  | fixed {t : JoinType} {target : Value} (same : type = .joinType t)
      (targets : source.Targets aliasName target) :
      SubqueryJoin s type source aliasName columns t.subqueryMethod [target, columns] []

namespace Value

theorem denotes_iff {v : Value} {type : JoinType} :
    v.content?.bind (fun s => JoinType.ofWord? (Text.upper s)) = some type ↔ v.Denotes type := by
  have words : ∀ t : JoinType, JoinType.ofWord? (Text.upper t.word) = some t := by
    intro t
    cases t <;> decide +kernel
  have others : ∀ d : SortDirection, JoinType.ofWord? (Text.upper d.word) = none := by
    intro d
    cases d <;> decide +kernel
  unfold Denotes
  cases v with
  | text w =>
    constructor
    · intro known
      exact .inr ⟨w, rfl, (JoinType.word_of_ofWord? known).symm⟩
    · rintro (same | ⟨word, same, upper⟩)
      · cases same
      · cases same
        simp [content?, upper]
  | joinType t => simp [content?, words]
  | direction d => simp [content?, others]
  | _ => simp [content?]

/-- A value that is embedded already stays as it is. -/
theorem embedded_embedded {r : Resolver} {v w : Value} (h : v.embedded r = .ok w) :
    w.embedded r = .ok w := by
  unfold embedded at h
  split at h
  · obtain ⟨t, -, made⟩ := bind_eq_ok.mp h
    cases made
    rfl
  · next other =>
    cases h
    unfold embedded
    split
    · next id => exact absurd rfl (other id)
    · rfl

end Value

namespace Builder

variable {r : Resolver} {type source sql aliasName columns target : Value}

/-- The source, the name and the columns of a joined subquery are as they have to be. -/
def WellJoined (sql aliasName columns : Value) : Prop :=
  sql.isName ∧ aliasName.isName ∧
    ∃ left right, columns.sequence? = some [left, right] ∧ left.isName ∧ right.isName

/-- What every way to join a subquery comes to. -/
def planSubqueryJoin (r : Resolver) (type sql aliasName columns : Value) : Outcome Change :=
  planJoin r type (.table sql aliasName (.bool true)) columns (.bool false)

theorem planJoin_marked (embeds : source.embedded r = .ok sql) {flag : Value}
    (either : flag = .bool true ∨ flag = .bool false) :
    planJoin r type (.table source aliasName (.bool true)) columns flag =
      planSubqueryJoin r type sql aliasName columns := by
  have same := Value.embedded_embedded embeds
  rcases either with rfl | rfl <;>
    simp [planSubqueryJoin, planJoin, joinTarget?, embeds, same, Value.isTrue]

theorem planJoin_flagged (embeds : source.embedded r = .ok sql)
    (targets : source.Targets aliasName target) :
    planJoin r type target columns (.bool true) =
      planSubqueryJoin r type sql aliasName columns := by
  have same := Value.embedded_embedded embeds
  cases targets with
  | pair pairs =>
    rcases pairs with rfl | rfl <;>
      simp [planSubqueryJoin, planJoin, joinTarget?, Value.sequence?, embeds, same, Value.isTrue]
  | table => simp [planSubqueryJoin, planJoin, joinTarget?, embeds, same, Value.isTrue]

/-- A method with its operands makes a call whose plan, whatever the builder is, is that of the
joined subquery. -/
theorem plan_subqueryJoin {s : Store} (embeds : source.embedded s.resolver = .ok sql)
    {method : String} {args : List Value} {named : List (String × Value)}
    (spelled : s.SubqueryJoin type source aliasName columns method args named) :
    ∃ c, Call.ofMethod method args named = .ok c ∧ ∀ b d : Builder,
      b.plan (s.contextOf d) c = planSubqueryJoin s.resolver type sql aliasName columns := by
  cases spelled with
  | flagged targets =>
    exact ⟨.join type _ columns (.bool true), rfl, fun _ _ => planJoin_flagged embeds targets⟩
  | marked =>
    exact ⟨.join type _ columns (.bool false), rfl,
      fun _ _ => planJoin_marked embeds (.inr rfl)⟩
  | helped made =>
    obtain ⟨source', embeds', made⟩ :=
      bind_eq_ok.mp (show s.subquery source aliasName = _ from made)
    obtain rfl : sql = source' := Except.ok.inj (embeds.symm.trans embeds')
    cases made
    exact ⟨.join type _ columns (.bool false), rfl, fun _ _ => rfl⟩
  | @fixed t target same targets =>
    subst same
    refine ⟨.join (.joinType t) target columns (.bool true), ?_,
      fun _ _ => planJoin_flagged embeds targets⟩
    cases t <;> rfl

theorem joinTarget?_marked (embeds : sql.embedded r = .ok sql) :
    joinTarget? r (.table sql aliasName (.bool true)) (.bool false) =
      .ok (if sql.isName && aliasName.isName then some ⟨sql, aliasName, .bool true⟩ else none) := by
  simp [joinTarget?, embeds, Value.isTrue, pure, Except.pure]

/-- The join is planned if and only if the type is known and the rest is well formed. -/
theorem planSubqueryJoin_eq_ok (embeds : sql.embedded r = .ok sql) {change : Change} :
    planSubqueryJoin r type sql aliasName columns = .ok change ↔
      ∃ t, type.Denotes t ∧ sql.isName ∧ aliasName.isName ∧
        ∃ left right, columns.sequence? = some [left, right] ∧ left.isName ∧ right.isName ∧
          .append (.join t ⟨sql, aliasName, .bool true⟩ left right) = change := by
  simp only [planSubqueryJoin, planJoin_eq_ok, joinTypeOf_eq_ok, Value.denotes_iff,
    joinTarget?_marked embeds]
  constructor
  · rintro ⟨t, denotes, table, found, left, right, sequence, hl, hr, rfl⟩
    split at found
    · next named =>
      cases found
      simp only [Bool.and_eq_true] at named
      exact ⟨t, denotes, named.1, named.2, left, right, sequence, hl, hr, rfl⟩
    · cases found
  · rintro ⟨t, denotes, source, named, left, right, sequence, hl, hr, rfl⟩
    exact ⟨t, denotes, _, by simp [source, named], left, right, sequence, hl, hr, rfl⟩

/-- A join under a known type is refused by the word of the type. -/
theorem planSubqueryJoin_malformed (embeds : sql.embedded r = .ok sql) {t : JoinType}
    (denotes : type.Denotes t) (malformed : ¬WellJoined sql aliasName columns) :
    planSubqueryJoin r type sql aliasName columns = misuse (.joinMalformed t.word) := by
  have known : joinTypeOf r type = .ok t := joinTypeOf_eq_ok.mpr (Value.denotes_iff.mpr denotes)
  rw [planSubqueryJoin, planJoin, known, joinTarget?_marked embeds]
  simp only [ok_bind]
  split
  · next table left right named sequence =>
    rw [if_neg]
    intro filled
    split at named
    · next both => simp_all [WellJoined]
    · cases named
  · rfl

/-- What is no join type is refused by its text. -/
theorem planSubqueryJoin_unknown (unknown : ¬∃ t, type.Denotes t) {text : String}
    (shows : type.Shows r text) :
    planSubqueryJoin r type sql aliasName columns = misuse (.joinMalformed text) := by
  have none : type.content?.bind (fun s => JoinType.ofWord? (Text.upper s)) = none := by
    cases found : type.content?.bind fun s => JoinType.ofWord? (Text.upper s) with
    | none => rfl
    | some t => exact absurd ⟨t, Value.denotes_iff.mp found⟩ unknown
  have refused : refuseMember r type = .ok () := by
    unfold refuseMember
    split
    · rfl
    · rfl
    · next e other failed => exact absurd (shows.1 e failed) (by simpa using other)
  have typed : joinTypeOf r type = misuse (.joinMalformed text) := by
    simp only [joinTypeOf, none, refused, shows.2, ok_bind]
  rw [planSubqueryJoin, planJoin, typed]
  rfl

/-- The clause that is added, as a text. -/
theorem render_subqueryJoin (r : Resolver) (t : JoinType) (sql : String) {name : String}
    (named : name ≠ "") (left right : String) :
    (Clause.join t ⟨.text sql, .text name, .bool true⟩ (.text left) (.text right)).render r =
      .ok (t.word ++ " JOIN ( " ++ sql ++ " ) AS " ++ name ++ " ON " ++ right ++ " = " ++
        left) := by
  have optional : (Value.text name).IsOptional := .inr trivial
  have table := Value.render_table r sql optional (.bool true)
  have opened : " JOIN " ++ "( " = " JOIN ( " := by decide
  simp only [Clause.render, table, ok_bind, Clause.joinText]
  simp [Value.toText, Value.tableText, Value.aliasedText, Value.isTrue, Value.string, named, pure,
    Except.pure, String.append_assoc]
  rw [← opened, String.append_assoc]

end Builder

end SelectBuilder
