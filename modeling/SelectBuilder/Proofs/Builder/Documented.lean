import SelectBuilder.Proofs.Builder.CallText
import SelectBuilder.Proofs.Builder.Fitness

/-!
# Documented failures

Operands of the kinds that a call is declared for may still be malformed: names are empty, pairs
have any number of items, operators are unknown. Each of these is a misuse, and the numbers of the
misuses that a call may be refused for are documented with it. Nothing else goes wrong with such
operands, and a statement made with them has a text.
-/
namespace SelectBuilder

open Outcome

namespace Outcome

variable {α β : Type} {numbers : List Nat}

/-- If it fails, then for a misuse with a code of its own, which has one of some numbers. -/
def Documented (numbers : List Nat) (m : Outcome α) : Prop :=
  ∀ e, m = .error e →
    ∃ cause code, e = .misuse cause ∧ cause.kind = .coded code ∧ code.number ∈ numbers

theorem documented_ok (a : α) : Documented numbers (.ok a) := nofun

theorem documented_misuse {cause : Misuse} {code : ErrorCode} (kind : cause.kind = .coded code)
    (listed : code.number ∈ numbers) : Documented numbers (misuse cause : Outcome α) := by
  intro e failed
  cases failed
  exact ⟨cause, code, rfl, kind, listed⟩

theorem Documented.bind {m : Outcome α} {f : α → Outcome β} (h : Documented numbers m)
    (next : ∀ a, m = .ok a → Documented numbers (f a)) : Documented numbers (m >>= f) := by
  cases m with
  | ok a => exact next a rfl
  | error e =>
    intro e' failed
    cases failed
    exact h e rfl

theorem Documented.bind_ok {m : Outcome α} {f : α → Outcome β} (h : ∃ a, m = .ok a)
    (next : ∀ a, m = .ok a → Documented numbers (f a)) : Documented numbers (m >>= f) := by
  obtain ⟨a, made⟩ := h
  rw [made]
  exact next a made

theorem Documented.discard {m : Outcome α} (h : Documented numbers m) :
    Documented numbers (discard m) := by
  cases m with
  | ok a => exact documented_ok _
  | error e =>
    intro e' failed
    cases failed
    exact h e rfl

end Outcome

/-! ## Operands -/

namespace Value

variable {r : Resolver} {v : Value}

theorem IsString.hasText (h : v.IsString) (r : Resolver) : v.HasText r := ⟨_, h.toText r⟩

theorem IsString.isText (h : v.IsString) : v.isText := by
  rw [h.eq_text]
  rfl

theorem IsString.isOneOf (h : v.IsString) (words : List String) :
    ∃ known, v.isOneOf words = .ok known := by
  rw [h.eq_text]
  exact ⟨_, rfl⟩

theorem IsString.embedded (h : v.IsString) (r : Resolver) : v.embedded r = .ok v := by
  rw [h.eq_text]
  rfl

theorem IsOptional.embedded (h : v.IsOptional) (r : Resolver) : v.embedded r = .ok v := by
  rcases h with rfl | h
  · rfl
  · exact h.embedded r

/-- A literal can be written in a comparison. -/
theorem IsLiteral.hasLiteral (h : v.IsLiteral) (r : Resolver) : v.HasLiteral r := by
  cases v with
  | number v =>
    refine ⟨_, rfl, .text v.numberText, ?_, _, rfl⟩
    rw [render, IsNumber.toText h]
    rfl
  | quoted v =>
    refine ⟨_, rfl, .text ("'" ++ v.string ++ "'"), ?_, _, rfl⟩
    rw [render, IsString.toText h]
    rfl
  | raw v => exact ⟨_, rfl, v, rfl, IsString.hasText h r⟩
  | null | bool b | text s | int i | double x | decimal d | code c =>
    exact ⟨_, rfl, _, rfl, _, rfl⟩
  | _ => exact h.elim

/-- As a bound or an item it is a text. -/
theorem IsLiteral.toRaw_isText (h : v.IsLiteral) (r : Resolver) :
    ∃ w, v.toRaw r = .ok w ∧ w.isText := by
  cases v with
  | number v =>
    refine ⟨.text v.numberText, ?_, rfl⟩
    rw [toRaw, render, IsNumber.toText h]
    rfl
  | quoted v =>
    refine ⟨.text ("'" ++ v.string ++ "'"), ?_, rfl⟩
    rw [toRaw, render, IsString.toText h]
    rfl
  | raw v => exact ⟨v, rfl, IsString.isText h⟩
  | null | bool b | text s | int i | double x | decimal d | code c => exact ⟨_, rfl, rfl⟩
  | _ => exact h.elim

theorem IsLiteral.hasRaw (h : v.IsLiteral) (r : Resolver) : v.HasRaw r := by
  obtain ⟨w, raw, text⟩ := h.toRaw_isText r
  exact ⟨w, raw, hasText_of_isText text⟩

theorem IsNumber.references (h : v.IsNumber) : v.references = [] := by
  cases v with
  | int i | bool b | code c | double x | decimal d => rfl
  | _ => exact h.elim

theorem IsString.references (h : v.IsString) : v.references = [] := by
  rw [h.eq_text]
  rfl

theorem IsLiteral.references (h : v.IsLiteral) : v.references = [] := by
  cases v with
  | number v => exact IsNumber.references (v := v) h
  | quoted v => exact IsString.references (v := v) h
  | raw v => exact IsString.references (v := v) h
  | null | bool b | text s | int i | double x | decimal d | code c => rfl
  | _ => exact h.elim

/-- What a list is made of: a text as it stands, or literals. -/
def IsListing (v : Value) : Prop :=
  v.IsString ∨ v.BuilderFree ∧ ∃ items, v.items? = some items ∧ ∀ i ∈ items, i.IsLiteral

/-- The inside of such a list is a text. -/
theorem IsListing.listInside_isText (h : v.IsListing) (r : Resolver) :
    ∃ inside, Builder.listInside r v = .ok inside ∧ inside.isText := by
  unfold Builder.listInside
  split
  · next id =>
    rcases h with string | ⟨free, -⟩
    · exact string.elim
    · exact absurd (by simp [Value.references]) (free id)
  · split
    · next text => exact ⟨v, rfl, text⟩
    · next noText =>
      rcases h with string | ⟨-, items, found, each⟩
      · exact absurd string.isText noText
      · obtain ⟨raws, raw, texts⟩ := exists_mapM fun i hi => (each i hi).toRaw_isText r
        obtain ⟨t, joined⟩ := joinContents_of_isText ", " texts
        simp only [found, raw, ok_bind, joined]
        exact ⟨_, rfl, rfl⟩

/-- An entry of an ORDER BY list, or a sequence without items in its place. -/
def IsOrderingLike (v : Value) : Prop := v.IsOrdering ∨ v.sequence? = some []

theorem IsDirection.toDirection?_isOk (h : v.IsDirection) (r : Resolver) :
    ∃ d, v.toDirection? r = .ok d := by
  cases v with
  | null | direction d => exact ⟨_, rfl⟩
  | text s =>
    by_cases empty : s = ""
    · subst empty
      exact ⟨_, rfl⟩
    · exact ⟨_, toDirection?_text r empty⟩
  | _ => exact h.elim

/-- Such an entry is understood or not, but nothing fails. -/
theorem IsOrderingLike.toSortItem?_isOk (h : v.IsOrderingLike) (r : Resolver) :
    ∃ i, v.toSortItem? r = .ok i := by
  unfold toSortItem?
  split
  · exact ⟨_, rfl⟩
  · split
    · exact ⟨_, rfl⟩
    · split
      · exact ⟨_, rfl⟩
      · next c d sequence =>
        rcases h with ordering | empty
        · split
          · obtain ⟨-, each, -⟩ := ordering.parts sequence
            obtain ⟨d', read⟩ := (each d (by simp)).toDirection?_isOk r
            simp only [read, ok_bind]
            exact ⟨_, rfl⟩
          · exact ⟨_, rfl⟩
        · cases sequence.symm.trans empty
      · exact ⟨_, rfl⟩

theorem IsWhole.quotedForm_isOk (h : v.IsWhole) (name : Reference → Outcome String) :
    ∃ t, v.quotedForm name = .ok t := by
  cases v with
  | int i | bool b | code c => exact ⟨_, rfl⟩
  | _ => exact h.elim

end Value

namespace Call

/-- The operands are of the kinds that the call is declared for. Sequences have any length, and
nothing may stand among their items. -/
def Declared : Call → Prop
  | select columns => ∀ v ∈ columns, v.IsColumn
  | source table aliasName => table.IsString ∧ aliasName.IsOptional
  | sourceQuery query aliasName => query.IsString ∧ aliasName.IsOptional
  | rows column => column.IsString
  | compare operator value => operator.IsString ∧ value.IsLiteral
  | differ value operator => operator.IsString ∧ value.IsLiteral
  | connect _ column => column.IsString
  | like _ pattern => pattern.IsString
  | between _ low high => low.IsLiteral ∧ high.IsLiteral
  | within _ values => values.IsListing
  | isNull _ => True
  | join joinType target on _ =>
    joinType.isText ∧ target.IsTarget ∧
      ∃ columns, on.sequence? = some columns ∧ ∀ v ∈ columns, v.IsOptional
  | groupBy columns => ∀ v ∈ columns, v.IsString
  | groups expression => expression.IsString
  | orderBy items => ∀ v ∈ items, v.IsOrderingLike
  | paginate count offset => count.IsWhole ∧ (offset = .null ∨ offset.IsWhole)
  | union _ query => query.IsString

/-- The numbers of the misuses that a call may be refused for. -/
def numbers : Call → List Nat
  | select _ => [1000, 1016]
  | source _ _ => [1001, 1002, 1005]
  | sourceQuery _ _ => [1001, 1002, 1003, 1005]
  | rows _ => [1000, 1001, 1017]
  | compare _ _ => [1004, 1007]
  | differ _ _ => [1004, 1008]
  | connect _ _ => [1000, 1004]
  | like _ _ => [1004, 1009]
  | between _ _ _ => [1004]
  | within _ _ => [1004, 1018]
  | isNull _ => [1004]
  | join _ _ _ _ => [1010]
  | groupBy _ => [1012]
  | groups _ => [1015]
  | orderBy _ => [1013, 1014]
  | paginate _ _ => [1019]
  | union _ _ => [1011]

end Call

namespace Builder

variable {ctx : Context} {b : Builder} {c : Call} {change : Change} {r : Resolver}
  {numbers : List Nat}

/-- An entry that was understood is no empty sequence. -/
theorem sortItems_isOrdering {items : List Value} {sorted : List SortItem}
    (like : ∀ v ∈ items, v.IsOrderingLike) (made : sortItems r items = .ok sorted) :
    ∀ v ∈ items, v.IsOrdering := by
  induction items generalizing sorted with
  | nil => exact nofun
  | cons v rest ih =>
    obtain ⟨first, others⟩ := List.forall_mem_cons.mp like
    obtain ⟨item, read, made⟩ := bind_eq_ok.mp made
    cases item with
    | none => cases made
    | some item =>
      obtain ⟨later, more, -⟩ := bind_eq_ok.mp made
      refine List.forall_mem_cons.mpr ⟨first.resolve_right fun empty => ?_, ih others more⟩
      cases v with
      | list items | tuple items =>
        cases empty
        cases read
      | _ => cases empty

/-- The operands of an accepted call are as they are meant to be. -/
theorem typed_of_declared (declared : c.Declared) (planned : b.plan ctx c = .ok change) :
    c.Typed := by
  cases c with
  | between negated low high =>
    refine ⟨fun k inside => ?_, fun k inside => ?_⟩
    · simp [declared.1.references] at inside
    · simp [declared.2.references] at inside
  | within negated values =>
    rcases declared with string | ⟨free, -⟩
    · intro k inside
      simp [string.references] at inside
    · exact free
  | join joinType target on subquery =>
    obtain ⟨-, target', columns, sequence, each⟩ := declared
    obtain ⟨t, -, table, -, left, right, sequence', hl, hr, -⟩ := planJoin_eq_ok.mp planned
    cases sequence.symm.trans sequence'
    refine ⟨target', _, sequence, fun v hv => (each v hv).string_of_isName ?_⟩
    simp only [List.mem_cons, List.not_mem_nil, or_false] at hv
    rcases hv with rfl | rfl
    · exact hl
    · exact hr
  | orderBy items =>
    obtain ⟨-, sorted, made, -⟩ := planOrderBy_eq_ok.mp planned
    exact sortItems_isOrdering declared made
  | _ => exact declared

/-- The clause that an accepted call adds has a text, however references are shown. -/
theorem fits_of_declared {clause : Clause} (declared : c.Declared)
    (planned : b.plan ctx c = .ok (.append clause)) (r : Resolver) : clause.Fits r :=
  Clause.render_isOk.mp ⟨_, plan_writes (typed_of_declared declared planned) planned r⟩

theorem Fits.apply_declared (h : b.Fits r) (declared : c.Declared)
    (planned : b.plan ctx c = .ok change) (strict : Bool) : (b.apply strict change).Fits r :=
  fits_apply.mpr ⟨h, fun _ same => fits_of_declared declared (same ▸ planned) r⟩

/-! ## Refusals -/

theorem requireSelect_documented (b : Builder) (clause : String) (listed : 1001 ∈ numbers) :
    Documented numbers (b.requireSelect clause) := by
  unfold requireSelect
  split
  · exact documented_ok _
  · exact documented_misuse rfl listed

theorem requireCondition_documented (b : Builder) {operator : Value} (named : operator.HasText r)
    (listed : 1004 ∈ numbers) : Documented numbers (b.requireCondition r operator) := by
  unfold requireCondition
  split
  · exact documented_ok _
  · exact .bind_ok named fun _ _ => documented_misuse rfl listed

theorem planSelect_documented (b : Builder) (columns : List Value) :
    Documented [1000, 1016] (b.planSelect columns) := by
  unfold planSelect
  split
  · exact documented_misuse rfl (by decide)
  · split
    · exact documented_misuse rfl (by decide)
    · split
      · exact documented_ok _
      · exact documented_misuse rfl (by decide)

theorem checkSource_documented (b : Builder) (source : Value)
    (listed : 1001 ∈ numbers ∧ 1002 ∈ numbers ∧ 1005 ∈ numbers) :
    Documented numbers (b.checkSource source) := by
  refine .bind (b.requireSelect_documented _ listed.1) fun _ _ => ?_
  split
  · exact documented_misuse rfl listed.2.1
  · split
    · exact documented_misuse rfl listed.2.2
    · exact documented_ok _

theorem planSource_documented (b : Builder) (table aliasName : Value) :
    Documented [1001, 1002, 1005] (b.planSource table aliasName) :=
  .bind (b.checkSource_documented table (by decide)) fun _ _ => documented_ok _

theorem planSourceQuery_documented (b : Builder) {query : Value} (aliasName : Value)
    (string : query.IsString) :
    Documented [1001, 1002, 1003, 1005] (b.planSourceQuery r query aliasName) := by
  unfold planSourceQuery
  split
  · exact documented_misuse rfl (by decide)
  · refine .bind_ok ⟨_, string.embedded r⟩ fun sql _ => ?_
    exact .bind (b.checkSource_documented sql (by decide)) fun _ _ => documented_ok _

theorem planRows_documented (b : Builder) (column : Value) :
    Documented [1000, 1001, 1017] (b.planRows column) := by
  refine .bind (b.requireSelect_documented _ (by decide)) fun _ _ => ?_
  split
  · exact documented_misuse rfl (by decide)
  · split
    · exact documented_misuse rfl (by decide)
    · exact documented_ok _

theorem planGroups_documented (b : Builder) (expression : Value) :
    Documented [1015] (b.planGroups expression) := by
  unfold planGroups
  split
  · exact documented_misuse rfl (by decide)
  · split
    · exact documented_misuse rfl (by decide)
    · exact documented_ok _

/-- A comparison is refused for want of a condition or for its operator. -/
theorem planCompare_documented (b : Builder) {operator value : Value} (string : operator.IsString)
    (literal : value.IsLiteral) (listed : 1004 ∈ numbers)
    (unknown : operator.isOneOf comparisonOperators = .ok false → 1007 ∈ numbers) :
    Documented numbers (b.planCompare r operator value) := by
  refine .bind (b.requireCondition_documented (string.hasText r) listed).discard fun _ _ => ?_
  refine .bind_ok (string.isOneOf _) fun known is => ?_
  refine .bind_ok (string.hasText r) fun op _ => ?_
  split
  · obtain ⟨l, written, w, rendered, t, text⟩ := literal.hasLiteral r
    simp only [written, ok_bind, rendered, text]
    exact documented_ok _
  · next other => exact documented_misuse rfl (unknown (by simpa [other] using is))

/-- An operator that may not be equal is one that may compare, so this is not refused again. -/
theorem planDiffer_documented (b : Builder) {value operator : Value} (string : operator.IsString)
    (literal : value.IsLiteral) :
    Documented [1004, 1008] (b.planDiffer r value operator) := by
  refine .bind (b.requireCondition_documented (string.hasText r) (by decide)).discard fun _ _ => ?_
  refine .bind_ok (string.isOneOf _) fun known is => ?_
  cases known with
  | true =>
    refine b.planCompare_documented string literal (by decide) fun other => ?_
    rw [Value.isOneOf_comparison is] at other
    cases other
  | false => exact .bind_ok (string.hasText r) fun _ _ => documented_misuse rfl (by decide)

/-- While a column waits, the refusal quotes the condition, which has to have a text for it. -/
theorem planConnect_documented (fits : b.Fits r) (word : Connective) {column : Value}
    (string : column.IsString) : Documented [1000, 1004] (b.planConnect r word column) := by
  refine .bind (b.requireCondition_documented ⟨_, rfl⟩ (by decide)) fun condition current => ?_
  split
  · exact documented_misuse rfl (by decide)
  · split
    · have text := Clause.render_isOk.mpr (current?_fits fits (requireCondition_eq_ok.mp current))
      exact .bind_ok text fun _ _ => documented_misuse rfl (by decide)
    · exact .bind_ok (string.hasText r) fun _ _ => documented_ok _

theorem planLike_documented (b : Builder) (negated : Bool) {pattern : Value}
    (string : pattern.IsString) : Documented [1004, 1009] (b.planLike r negated pattern) := by
  refine .bind (b.requireCondition_documented ⟨_, rfl⟩ (by decide)).discard fun _ _ => ?_
  split
  · exact documented_misuse rfl (by decide)
  · rw [Value.render, string.toText]
    exact documented_ok _

theorem planBetween_documented (b : Builder) (negated : Bool) {low high : Value}
    (lowest : low.IsLiteral) (highest : high.IsLiteral) :
    Documented [1004] (b.planBetween r negated low high) := by
  refine .bind (b.requireCondition_documented ⟨_, rfl⟩ (by decide)).discard fun _ _ => ?_
  obtain ⟨v, lowRaw, l, lowText⟩ := lowest.hasRaw r
  obtain ⟨w, highRaw, h, highText⟩ := highest.hasRaw r
  simp only [lowRaw, ok_bind, lowText, highRaw, highText]
  exact documented_ok _

theorem planWithin_documented (b : Builder) (negated : Bool) {values : Value}
    (listing : values.IsListing) : Documented [1004, 1018] (b.planWithin r negated values) := by
  refine .bind (b.requireCondition_documented ⟨_, rfl⟩ (by decide)).discard fun _ _ => ?_
  obtain ⟨inside, listed, text⟩ := listing.listInside_isText r
  simp only [listed, ok_bind]
  split
  · exact documented_misuse rfl (by decide)
  · exact .bind_ok (Value.hasText_of_isText text) fun _ _ => documented_ok _

theorem planIsNull_documented (b : Builder) (negated : Bool) :
    Documented [1004] (b.planIsNull r negated) := by
  refine .bind (b.requireCondition_documented ⟨_, rfl⟩ (by decide)).discard fun _ _ => ?_
  exact documented_ok _

theorem joinTypeOf_documented {joinType : Value} (word : joinType.isText) :
    Documented [1010] (joinTypeOf r joinType) := by
  unfold joinTypeOf
  split
  · exact documented_ok _
  · obtain ⟨t, text⟩ := Value.hasText_of_isText (r := r) word
    have refused : refuseMember r joinType = .ok () := by
      cases joinType <;> first | rfl | cases word
    simp only [refused, ok_bind, text]
    exact documented_misuse rfl (by decide)

theorem joinTarget?_isOk {target : Value} (h : target.IsTarget) (subquery : Value) :
    ∃ t, joinTarget? r target subquery = .ok t := by
  unfold joinTarget?
  dsimp only
  split
  · next source aliasName wrapped parts =>
    have optional : source.IsOptional := by
      split at parts
      · cases parts
        exact .inr h.1
      · split at parts
        · next sequence =>
          cases parts
          exact (h.parts sequence).1 source (by simp)
        · cases parts
    simp only [optional.embedded r, ok_bind]
    exact ⟨_, rfl⟩
  · exact ⟨_, rfl⟩

theorem planJoin_documented {joinType target : Value} (word : joinType.isText)
    (target' : target.IsTarget) (on subquery : Value) :
    Documented [1010] (planJoin r joinType target on subquery) := by
  refine .bind (joinTypeOf_documented word) fun t _ => ?_
  refine .bind_ok (joinTarget?_isOk target' subquery) fun table? _ => ?_
  split
  · split
    · exact documented_ok _
    · exact documented_misuse rfl (by decide)
  · exact documented_misuse rfl (by decide)

theorem planGroupBy_documented (columns : List Value) :
    Documented [1012] (planGroupBy columns) := by
  unfold planGroupBy
  split
  · exact documented_ok _
  · exact documented_misuse rfl (by decide)

theorem sortItems_documented {items : List Value} (like : ∀ v ∈ items, v.IsOrderingLike) :
    Documented [1013, 1014] (sortItems r items) := by
  induction items with
  | nil => exact documented_ok _
  | cons v rest ih =>
    obtain ⟨first, others⟩ := List.forall_mem_cons.mp like
    refine .bind_ok (first.toSortItem?_isOk r) fun item _ => ?_
    cases item with
    | none => exact documented_misuse rfl (by decide)
    | some item => exact (ih others).bind fun later _ => documented_ok _

theorem planOrderBy_documented {items : List Value} (like : ∀ v ∈ items, v.IsOrderingLike) :
    Documented [1013, 1014] (planOrderBy r items) := by
  unfold planOrderBy
  split
  · exact documented_misuse rfl (by decide)
  · exact .bind (sortItems_documented like) fun _ _ => documented_ok _

theorem planPaginate_documented (ctx : Context) {count offset : Value} (whole : count.IsWhole)
    (optional : offset = .null ∨ offset.IsWhole) :
    Documented [1019] (planPaginate ctx count offset) := by
  unfold planPaginate
  split
  · refine .bind_ok (whole.quotedForm_isOk _) fun _ _ => ?_
    refine .bind_ok ?_ fun _ _ => documented_misuse rfl (by decide)
    rcases optional with rfl | whole
    · exact ⟨_, rfl⟩
    · exact whole.quotedForm_isOk _
  · exact documented_ok _

theorem planUnion_documented (all : Bool) {query : Value} (string : query.IsString) :
    Documented [1011] (planUnion r all query) := by
  unfold planUnion
  refine .bind_ok ⟨_, string.embedded r⟩ fun _ _ => ?_
  split
  · exact documented_ok _
  · exact documented_misuse rfl (by decide)

/-- A call with operands of the declared kinds is accepted, or it is refused for one of the misuses
that are documented for it. -/
theorem plan_documented (declared : c.Declared) (fits : b.Fits ctx.resolver) :
    Documented c.numbers (b.plan ctx c) := by
  cases c with
  | select columns => exact b.planSelect_documented columns
  | source table aliasName => exact b.planSource_documented table aliasName
  | sourceQuery query aliasName => exact b.planSourceQuery_documented aliasName declared.1
  | rows column => exact b.planRows_documented column
  | compare operator value =>
    exact b.planCompare_documented declared.1 declared.2 (.head _) fun _ => .tail _ (.head _)
  | differ value operator => exact b.planDiffer_documented declared.1 declared.2
  | connect word column => exact planConnect_documented fits word declared
  | like negated pattern => exact b.planLike_documented negated declared
  | between negated low high => exact b.planBetween_documented negated declared.1 declared.2
  | within negated values => exact b.planWithin_documented negated declared
  | isNull negated => exact b.planIsNull_documented negated
  | join joinType target on subquery =>
    exact planJoin_documented declared.1 declared.2.1 on subquery
  | groupBy columns => exact planGroupBy_documented columns
  | groups expression => exact b.planGroups_documented expression
  | orderBy items => exact planOrderBy_documented declared
  | paginate count offset => exact planPaginate_documented ctx declared.1 declared.2
  | union all query => exact planUnion_documented all declared

end Builder

end SelectBuilder
