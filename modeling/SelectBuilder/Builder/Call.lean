import SelectBuilder.Builder.Basic

/-!
# Calls

The requests that a builder answers. Every call is checked first, against the builder and its
operands, and yields a change or a failure; a failed call has no change to apply.
-/
namespace SelectBuilder

inductive Call where
  | select (columns : List Value)
  | source (table aliasName : Value)
  | sourceQuery (query aliasName : Value)
  | rows (column : Value)
  | compare (operator value : Value)
  | differ (value operator : Value)
  | connect (word : Connective) (column : Value)
  | like (negated : Bool) (pattern : Value)
  | between (negated : Bool) (low high : Value)
  | within (negated : Bool) (values : Value)
  | isNull (negated : Bool)
  | join (joinType target on subquery : Value)
  | groupBy (columns : List Value)
  | groups (expression : Value)
  | orderBy (items : List Value)
  | paginate (count offset : Value)
  | union (all : Bool) (query : Value)

/-- What a call may look at besides the builder: the text of references, and whether pagination is
checked. -/
structure Context where
  resolver : Resolver
  checksPagination : Bool

namespace Builder

/-- Negated operators put NOT before or inside their keyword. -/
def negatable (negated : Bool) (keyword : String) : String :=
  if negated then "NOT " ++ keyword else keyword

def requireSelect (b : Builder) (clause : String) : Outcome Unit :=
  if b.slots.select.isSome then .ok () else misuse (.selectMissing clause)

/-- The condition under the cursor, which the named operator is to extend. -/
def requireCondition (r : Resolver) (b : Builder) (operator : Value) : Outcome Clause :=
  match b.current? with
  | some c => .ok c
  | none => do misuse (.conditionMissing (← operator.toText r))

def planSelect (b : Builder) (columns : List Value) : Outcome Change :=
  if b.slots.select.isSome then misuse .secondSelect
  else if columns.isEmpty then misuse .columnsMalformed
  else match columns.mapM Value.toColumn? with
    | some cs => .ok (.append (.select cs))
    | none => misuse .columnsMalformed

def checkSource (b : Builder) (source : Value) : Outcome Unit := do
  b.requireSelect "FROM"
  if !source.isTrue then misuse .tableMissing
  else if b.slots.source.isSome then misuse .secondFrom
  else return ()

def planSource (b : Builder) (table aliasName : Value) : Outcome Change := do
  b.checkSource table
  return .append (.source ⟨table, aliasName.orNull, .bool false⟩)

def planSourceQuery (r : Resolver) (b : Builder) (query aliasName : Value) : Outcome Change := do
  if !aliasName.isTrue then misuse .aliasMissing
  else
    let sql ← query.embedded r
    b.checkSource sql
    return .append (.source ⟨sql, aliasName, .bool true⟩)

def planRows (b : Builder) (column : Value) : Outcome Change := do
  b.requireSelect "WHERE"
  if !column.isTrue then misuse .conditionColumnMissing
  else if b.slots.rows.isSome then misuse .secondWhere
  else return .append (.condition .rows column [])

def planGroups (b : Builder) (expression : Value) : Outcome Change :=
  if !expression.isTrue then misuse .havingMissing
  else if b.slots.groups.isSome then misuse .secondHaving
  else .ok (.append (.condition .groups expression []))

def planCompare (r : Resolver) (b : Builder) (operator value : Value) : Outcome Change := do
  discard <| b.requireCondition r operator
  let known ← operator.isOneOf comparisonOperators
  let op ← operator.toText r
  if known then
    let v ← (← (← value.toLiteral r).render r).toText r
    return .extend op (op ++ " " ++ v) .complete
  else misuse (.unknownComparison op)

def planDiffer (r : Resolver) (b : Builder) (value operator : Value) : Outcome Change := do
  discard <| b.requireCondition r operator
  if ← operator.isOneOf inequalityOperators then b.planCompare r operator value
  else misuse (.unknownInequality (← operator.toText r))

def planConnect (r : Resolver) (b : Builder) (word : Connective) (column : Value) :
    Outcome Change := do
  let condition ← b.requireCondition r (.text word.word)
  if !column.isTrue then misuse (.furtherColumnMissing word.word)
  else if b.stage ≠ .complete then
    misuse (.columnPending word.word (← condition.render r))
  else return .extend word.word (word.word ++ " " ++ (← column.toText r)) .pending

def planLike (r : Resolver) (b : Builder) (negated : Bool) (pattern : Value) : Outcome Change := do
  let keyword := negatable negated "LIKE"
  discard <| b.requireCondition r (.text keyword)
  if !pattern.isTrue then misuse (.patternMissing keyword)
  else
    let p ← (← (Value.quoted pattern).render r).toText r
    return .extend keyword (keyword ++ " " ++ p) .complete

def planBetween (r : Resolver) (b : Builder) (negated : Bool) (low high : Value) :
    Outcome Change := do
  let keyword := negatable negated "BETWEEN"
  discard <| b.requireCondition r (.text keyword)
  let l ← (← low.toRaw r).toText r
  let h ← (← high.toRaw r).toText r
  return .extend keyword (keyword ++ " " ++ l ++ " AND " ++ h) .complete

/-- The inside of a list: a statement or a text as it is, else the items with commas. -/
def listInside (r : Resolver) (values : Value) : Outcome Value :=
  match values with
  | .reference (.builder id) => do return .text (← r.statement id)
  | v =>
    if v.isText then .ok v
    else match v.items? with
      | some items => do return .text (← joinContents ", " (← items.mapM (Value.toRaw r)))
      | none => .error .wrongType

def planWithin (r : Resolver) (b : Builder) (negated : Bool) (values : Value) :
    Outcome Change := do
  let keyword := negatable negated "IN"
  discard <| b.requireCondition r (.text keyword)
  let inside ← listInside r values
  if !inside.isTrue then misuse (.listEmpty keyword)
  else return .extend keyword (keyword ++ " (" ++ (← inside.toText r) ++ ")") .complete

def planIsNull (r : Resolver) (b : Builder) (negated : Bool) : Outcome Change := do
  let keyword := if negated then "IS NOT NULL" else "IS NULL"
  discard <| b.requireCondition r (.text keyword)
  return .extend keyword keyword .complete

/-- What is no member of a vocabulary is refused by its quoted form. That the form has a wrong value
in it is a refusal as well; other failures are not. -/
def refuseMember (r : Resolver) (v : Value) : Outcome Unit :=
  match v.quotedForm r.quoted with
  | .ok _ => .ok ()
  | .error .wrongValue => .ok ()
  | .error e => .error e

/-- Join types are recognised in any case. -/
def joinTypeOf (r : Resolver) (v : Value) : Outcome JoinType := do
  match v.content?.bind fun s => JoinType.ofWord? (Text.upper s) with
  | some t => return t
  | none =>
    refuseMember r v
    misuse (.joinMalformed (← v.toText r))

/-- A table with an alias, from a descriptor or a pair; a statement in it is taken as its text. It
is wrapped as a subquery if either the call or the descriptor asks for it. -/
def joinTarget? (r : Resolver) (target subquery : Value) : Outcome (Option Table) := do
  let parts? : Option (Value × Value × Value) :=
    match target with
    | .table source aliasName isSubquery =>
      some (source, aliasName, if subquery.isTrue then subquery else isSubquery)
    | v => match v.sequence? with
      | some [source, aliasName] => some (source, aliasName, subquery)
      | _ => none
  match parts? with
  | some (source, aliasName, wrapped) =>
    let source ← source.embedded r
    return if source.isName && aliasName.isName then some ⟨source, aliasName, wrapped⟩
      else none
  | none => return none

def planJoin (r : Resolver) (joinType target on subquery : Value) : Outcome Change := do
  let t ← joinTypeOf r joinType
  match ← joinTarget? r target subquery, on.sequence? with
  | some table, some [left, right] =>
    if left.isName && right.isName then return .append (.join t table left right)
    else misuse (.joinMalformed t.word)
  | _, _ => misuse (.joinMalformed t.word)

def planGroupBy (columns : List Value) : Outcome Change :=
  if !columns.isEmpty && columns.all Value.isName then .ok (.append (.groupBy columns))
  else misuse .groupingMalformed

/-- The items are read in order up to the first malformed one. -/
def sortItems (r : Resolver) : List Value → Outcome (List SortItem)
  | [] => .ok []
  | v :: rest => do
    match ← v.toSortItem? r with
    | some item => return item :: (← sortItems r rest)
    | none => misuse .orderingMalformed

def planOrderBy (r : Resolver) (items : List Value) : Outcome Change := do
  if items.isEmpty then misuse .orderingMissing
  else return .append (.orderBy (← sortItems r items))

def isCount (v : Value) : Bool := v.integer?.any fun i => decide (0 ≤ i)

def planPaginate (ctx : Context) (count offset : Value) : Outcome Change :=
  if ctx.checksPagination && !(isCount count && (offset.isNull || isCount offset)) then do
    let c ← count.quotedForm ctx.resolver.quoted
    let o ← offset.quotedForm ctx.resolver.quoted
    misuse (.paginationMalformed c o)
  else .ok (.append (.limit count offset))

def planUnion (r : Resolver) (all : Bool) (query : Value) : Outcome Change := do
  let q ← query.embedded r
  if q.isName then return .append (.union all q)
  else misuse (.unionMalformed (if all then "UNION ALL" else "UNION"))

def plan (ctx : Context) (b : Builder) : Call → Outcome Change
  | .select columns => b.planSelect columns
  | .source table aliasName => b.planSource table aliasName
  | .sourceQuery query aliasName => b.planSourceQuery ctx.resolver query aliasName
  | .rows column => b.planRows column
  | .compare operator value => b.planCompare ctx.resolver operator value
  | .differ value operator => b.planDiffer ctx.resolver value operator
  | .connect word column => b.planConnect ctx.resolver word column
  | .like negated pattern => b.planLike ctx.resolver negated pattern
  | .between negated low high => b.planBetween ctx.resolver negated low high
  | .within negated values => b.planWithin ctx.resolver negated values
  | .isNull negated => b.planIsNull ctx.resolver negated
  | .join joinType target on subquery => planJoin ctx.resolver joinType target on subquery
  | .groupBy columns => planGroupBy columns
  | .groups expression => b.planGroups expression
  | .orderBy items => planOrderBy ctx.resolver items
  | .paginate count offset => planPaginate ctx count offset
  | .union all query => planUnion ctx.resolver all query

end Builder

end SelectBuilder
