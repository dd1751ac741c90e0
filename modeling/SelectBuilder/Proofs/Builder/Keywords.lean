import SelectBuilder.Proofs.Builder.Entries
import SelectBuilder.Proofs.Builder.Operators
import SelectBuilder.Proofs.Builder.Subqueries
import SelectBuilder.Proofs.Text.Casing

/-!
# Keywords among operands

A join is planned under a string if and only if the string spells a join type, and a column with a
direction if and only if that spells one. The clause shows the keyword itself, not its spelling.
-/
namespace SelectBuilder

open Outcome

theorem JoinType.ofWord?_eq_some {s : String} {t : JoinType} : ofWord? s = some t ↔ s = t.word :=
  ⟨fun known => (word_of_ofWord? known).symm, fun same => by rw [same, ofWord?_word]⟩

theorem SortDirection.ofWord?_eq_some {s : String} {d : SortDirection} :
    ofWord? s = some d ↔ s = d.word :=
  ⟨fun known => (word_of_ofWord? known).symm, fun same => by rw [same, ofWord?_word]⟩

namespace Value

/-- The text of a string is the same wherever it is asked for. -/
theorem exists_text {v : Value} (h : v.isText) : ∃ t, ∀ r, v.toText r = .ok t := by
  cases v with
  | text s => exact ⟨s, fun _ => rfl⟩
  | joinType t => exact ⟨_, fun _ => rfl⟩
  | direction d => exact ⟨_, fun _ => rfl⟩
  | _ => cases h

theorem isTrue_of_isName {v : Value} (h : v.isName) : v.isTrue := (Bool.and_eq_true_iff.mp h).2

/-- A target of a join: a pair or a table, with a source and a name that are not empty. -/
inductive IsJoinTarget (r : Resolver) : Value → Prop where
  | pair {make : List Value → Value} {source sql aliasName : Value} (pairs : Pairs make)
      (embeds : source.embedded r = .ok sql) (filled : sql.isName) (named : aliasName.isName) :
      IsJoinTarget r (make [source, aliasName])
  | table {source sql aliasName : Value} (isSubquery : Value)
      (embeds : source.embedded r = .ok sql) (filled : sql.isName) (named : aliasName.isName) :
      IsJoinTarget r (.table source aliasName isSubquery)

/-- Two operands in a list or a tuple, which are not empty. -/
def IsNamePair (v : Value) : Prop :=
  ∃ left right, v.sequence? = some [left, right] ∧ left.isName ∧ right.isName

theorem IsJoinTarget.taken {r : Resolver} {target : Value} (h : target.IsJoinTarget r)
    (subquery : Value) :
    ∃ source aliasName wrapped, source.isName ∧ aliasName.isName ∧
      Builder.joinTarget? r target subquery = .ok (some ⟨source, aliasName, wrapped⟩) := by
  cases h with
  | pair pairs embeds filled named =>
    refine ⟨_, _, subquery, filled, named, ?_⟩
    rcases pairs with rfl | rfl <;>
      simp [Builder.joinTarget?, sequence?, embeds, filled, named, pure, Except.pure]
  | table isSubquery embeds filled named =>
    refine ⟨_, _, if subquery.isTrue then subquery else isSubquery, filled, named, ?_⟩
    simp [Builder.joinTarget?, embeds, filled, named, pure, Except.pure]

end Value

/-- A table whose source and name are strings has a text. -/
theorem Table.exists_text {t : Table} (source : t.source.isName) (named : t.aliasName.isName) :
    ∃ text, ∀ r, t.render r = .ok (.text text) := by
  obtain ⟨s, hs⟩ := Value.exists_text (Value.isText_of_isName source)
  obtain ⟨a, ha⟩ := Value.exists_text (Value.isText_of_isName named)
  have filled := Value.isTrue_of_isName named
  cases wrapped : t.isSubquery.isTrue with
  | true =>
    refine ⟨"( " ++ s ++ " )" ++ " AS " ++ a, fun r => ?_⟩
    simp [Table.render, aliased, wrapped, filled, hs, ha, Except.map, pure, Except.pure]
  | false =>
    refine ⟨s ++ " AS " ++ a, fun r => ?_⟩
    simp [Table.render, aliased, wrapped, filled, hs, ha, pure, Except.pure]

namespace Builder

variable {r : Resolver} {v : Value} {t : String}

theorem joinTypeOf_eq_ok_iff_spells (content : v.content? = some t) {j : JoinType} :
    joinTypeOf r v = .ok j ↔ Text.Spells t j.word := by
  rw [joinTypeOf_eq_ok, content, Option.bind_some, JoinType.ofWord?_eq_some,
    Text.upper_joinType_iff]

/-- A string that spells no join type is shown in the refusal. -/
theorem joinTypeOf_unknown (content : v.content? = some t)
    (unknown : ¬∃ j, joinTypeOf r v = .ok j) :
    ∃ shown, v.toText r = .ok shown ∧ joinTypeOf r v = misuse (.joinMalformed shown) := by
  have none : v.content?.bind (fun s => JoinType.ofWord? (Text.upper s)) = none := by
    refine Option.eq_none_iff_forall_ne_some.mpr fun j known => unknown ⟨j, ?_⟩
    exact joinTypeOf_eq_ok.mpr known
  have isText : v.isText := by simp [Value.isText, content]
  obtain ⟨shown, text⟩ := Value.exists_text isText
  have refused : refuseMember r v = .ok () := by cases v <;> first | rfl | cases isText
  refine ⟨shown, text r, ?_⟩
  simp only [joinTypeOf, none, refused, text, ok_bind]

/-- With a target and columns as they should be, a join depends on its type alone, which is written
as its keyword. -/
theorem planJoin_spelled {target on : Value} (joined : target.IsJoinTarget r)
    (columns : on.IsNamePair) (subquery : Value) :
    ∃ rest, ∀ v t, v.content? = some t →
      (∀ j : JoinType, Text.Spells t j.word →
        ∃ clause, planJoin r v target on subquery = .ok (.append clause) ∧
          ∀ r', clause.render r' = .ok (j.word ++ " JOIN " ++ rest)) ∧
      ((¬∃ j : JoinType, Text.Spells t j.word) →
        ∃ shown, v.toText r = .ok shown ∧
          planJoin r v target on subquery = misuse (.joinMalformed shown)) := by
  obtain ⟨source, aliasName, wrapped, filled, named, taken⟩ := joined.taken subquery
  obtain ⟨left, right, sequence, hl, hr⟩ := columns
  obtain ⟨table, rendered⟩ := Table.exists_text (t := ⟨source, aliasName, wrapped⟩) filled named
  obtain ⟨l, lt⟩ := Value.exists_text (Value.isText_of_isName hl)
  obtain ⟨m, mt⟩ := Value.exists_text (Value.isText_of_isName hr)
  refine ⟨table ++ " ON " ++ m ++ " = " ++ l, fun v t content => ⟨fun j spells => ?_,
    fun unknown => ?_⟩⟩
  · have known : joinTypeOf r v = .ok j := (joinTypeOf_eq_ok_iff_spells content).mpr spells
    refine ⟨_, planJoin_eq_ok.mpr ⟨j, known, _, taken, left, right, sequence, hl, hr, rfl⟩,
      fun r' => ?_⟩
    simp only [Clause.render, rendered, ok_bind, Clause.joinText, lt, mt, Value.toText_text]
    simp [pure, Except.pure, String.append_assoc]
  · have none : ¬∃ j, joinTypeOf r v = .ok j := by
      rintro ⟨j, known⟩
      exact unknown ⟨j, (joinTypeOf_eq_ok_iff_spells content).mp known⟩
    obtain ⟨shown, text, refused⟩ := joinTypeOf_unknown content none
    refine ⟨shown, text, ?_⟩
    rw [planJoin, refused]
    rfl

/-- Among the strings those that spell a direction, and the directions themselves, are understood
as one. -/
theorem toDirection?_of_content (content : v.content? = some t) (filled : t ≠ "") :
    ∃ d?, v.toDirection? r = .ok (d?.map .direction) ∧
      ∀ d : SortDirection, d? = some d ↔ Text.Spells t d.word := by
  cases v with
  | text s =>
    cases content
    refine ⟨SortDirection.ofWord? (Text.upper t), Value.toDirection?_text r filled, fun d => ?_⟩
    rw [SortDirection.ofWord?_eq_some, Text.upper_direction_iff]
  | joinType j =>
    cases content
    refine ⟨none, ?_, fun d => ?_⟩
    · have other : SortDirection.ofWord? (Text.upper ("JoinType." ++ j.word)) = none := by
        cases j <;> decide +kernel
      rw [← other]
      rfl
    · cases j <;> cases d <;> decide
  | direction k =>
    cases content
    refine ⟨some k, rfl, fun d => ?_⟩
    cases k <;> cases d <;> decide
  | _ => cases content

/-- A column with a direction is ordered by the keyword of the direction. -/
theorem planOrderBy_spelled {c d : Value} (sequence : v.sequence? = some [c, d]) (name : c.isName)
    (content : d.content? = some t) (filled : t ≠ "") :
    ∃ column, c.toText r = .ok column ∧
      (∀ k : SortDirection, Text.Spells t k.word →
        ∃ clause, planOrderBy r [v] = .ok (.append clause) ∧
          ∀ r', clause.render r' = .ok ("ORDER BY " ++ column ++ " " ++ k.word)) ∧
      ((¬∃ k : SortDirection, Text.Spells t k.word) →
        planOrderBy r [v] = misuse .orderingMalformed) := by
  obtain ⟨column, text⟩ := Value.exists_text (Value.isText_of_isName name)
  obtain ⟨d?, directed, known⟩ := toDirection?_of_content (r := r) content filled
  have item : v.toSortItem? r = .ok (d?.map fun k => ⟨c, .direction k⟩) := by
    rw [Value.toSortItem?_of_sequence sequence, if_pos name, directed]
    cases d? <;> rfl
  refine ⟨column, text r, fun k spells => ?_, fun unknown => ?_⟩
  · obtain rfl : d? = some k := (known k).mpr spells
    refine ⟨.orderBy [⟨c, .direction k⟩], ?_, fun r' => ?_⟩
    · simp [planOrderBy, sortItems, item, pure, Except.pure]
    · have entry : SortItem.render r' ⟨c, .direction k⟩ =
          .ok (.text (column ++ " " ++ k.word)) := by
        simp [SortItem.render, Value.isNull, text, Value.inner, Value.inner?, pure, Except.pure]
      simp [Clause.render, entry, Clause.listText, joinContents, String.append_assoc, pure,
        Except.pure]
  · obtain rfl : d? = none :=
      Option.eq_none_iff_forall_ne_some.mpr fun k some => unknown ⟨k, (known k).mp some⟩
    simp [planOrderBy, sortItems, item]
    rfl

end Builder

end SelectBuilder
