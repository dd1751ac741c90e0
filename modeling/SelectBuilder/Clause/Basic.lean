import SelectBuilder.Value.Descriptor

/-!
# Clauses

The clauses of a statement and their text. A condition clause has a head and a list of parts that
later operators extend; its text is the keyword, the head and the parts with single spaces between
them.
-/
namespace SelectBuilder

/-- Conditions on rows are the WHERE clauses, conditions on groups the HAVING clauses. -/
inductive ConditionKind where
  | rows | groups
  deriving DecidableEq

def ConditionKind.keyword : ConditionKind → String
  | rows => "WHERE"
  | groups => "HAVING"

inductive Clause where
  | select (columns : List Column)
  | source (target : Table)
  | condition (kind : ConditionKind) (head : Value) (parts : List String)
  | join (joinType : JoinType) (target : Table) (left right : Value)
  | groupBy (columns : List Value)
  | orderBy (items : List SortItem)
  | limit (count offset : Value)
  | union (all : Bool) (query : Value)

namespace Clause

def keyword : Clause → String
  | select _ => "SELECT"
  | source _ => "FROM"
  | condition kind _ _ => kind.keyword
  | join _ _ _ _ => "JOIN"
  | groupBy _ => "GROUP BY"
  | orderBy _ => "ORDER BY"
  | limit _ _ => "LIMIT"
  | union _ _ => "UNION"

def kindName : Clause → String
  | select _ => "SelectClause"
  | source _ => "FromClause"
  | condition .rows _ _ => "WhereClause"
  | condition .groups _ _ => "HavingClause"
  | join _ _ _ _ => "JoinClause"
  | groupBy _ => "GroupByClause"
  | orderBy _ => "OrderByClause"
  | limit _ _ => "LimitClause"
  | union _ _ => "UnionClause"

/-- The parts of a clause under their names, as values. -/
def fields : Clause → List (String × Value)
  | select columns => [("columns", .tuple (columns.map Column.value))]
  | source target => [("target", target.value)]
  | condition _ head parts => [("head", head), ("parts", .list (parts.map .text))]
  | join joinType target left right =>
    [("join_type", .joinType joinType), ("target", target.value), ("left_column", left),
      ("right_column", right)]
  | groupBy columns => [("columns", .tuple columns)]
  | orderBy items => [("specs", .tuple (items.map SortItem.value))]
  | limit count offset => [("limit", count), ("offset", offset)]
  | union all query => [("query", query), ("union_all", .bool all)]

/-- A keyword followed by entries with commas between them. -/
def listText (keyword : String) (entries : List Value) : Outcome String := do
  return keyword ++ " " ++ (← joinContents ", " entries)

def sourceText (r : Resolver) (target : Value) : Outcome String := do
  return "FROM " ++ (← target.toText r)

def conditionText (keyword : String) (head : Value) (parts : List Value) : Outcome String :=
  joinContents " " (.text keyword :: head :: parts)

/-- The right column is written before the left one. -/
def joinText (r : Resolver) (word target : Value) (left right : Value) : Outcome String := do
  let w ← word.toText r
  let t ← target.toText r
  let b ← right.toText r
  let a ← left.toText r
  return w ++ " JOIN " ++ t ++ " ON " ++ b ++ " = " ++ a

def limitText (r : Resolver) (count offset : Value) : Outcome String := do
  if offset.isNull then return "LIMIT " ++ (← count.toText r)
  else
    let c ← count.toText r
    let o ← offset.toText r
    return "LIMIT " ++ c ++ " OFFSET " ++ o

def unionText (r : Resolver) (all : Bool) (query : Value) : Outcome String := do
  return (if all then "UNION ALL " else "UNION ") ++ (← query.toText r)

def render (r : Resolver) : Clause → Outcome String
  | select columns => do listText "SELECT" (← columns.mapM (Column.render r))
  | source target => do sourceText r (← target.render r)
  | condition kind head parts => conditionText kind.keyword head (parts.map Value.text)
  | join joinType target left right => do
    joinText r (.text joinType.word) (← target.render r) left right
  | groupBy columns => listText "GROUP BY" columns
  | orderBy items => do listText "ORDER BY" (← items.mapM (SortItem.render r))
  | limit count offset => limitText r count offset
  | union all query => unionText r all query

def isSelect : Clause → Bool
  | select _ => true
  | _ => false

def isSource : Clause → Bool
  | source _ => true
  | _ => false

def isCondition : Clause → Bool
  | condition _ _ _ => true
  | _ => false

def isConditionOn (kind : ConditionKind) : Clause → Bool
  | condition k _ _ => k == kind
  | _ => false

/-- Adds a part to a condition; other clauses have none. -/
def extend (part : String) : Clause → Clause
  | condition kind head parts => condition kind head (parts ++ [part])
  | c => c

@[simp] theorem keyword_extend (part : String) (c : Clause) :
    (c.extend part).keyword = c.keyword := by
  cases c <;> rfl

@[simp] theorem isCondition_extend (part : String) (c : Clause) :
    (c.extend part).isCondition = c.isCondition := by
  cases c <;> rfl

@[simp] theorem isConditionOn_extend (kind : ConditionKind) (part : String) (c : Clause) :
    (c.extend part).isConditionOn kind = c.isConditionOn kind := by
  cases c <;> rfl

@[simp] theorem isSelect_extend (part : String) (c : Clause) :
    (c.extend part).isSelect = c.isSelect := by
  cases c <;> rfl

@[simp] theorem isSource_extend (part : String) (c : Clause) :
    (c.extend part).isSource = c.isSource := by
  cases c <;> rfl

end Clause

end SelectBuilder
