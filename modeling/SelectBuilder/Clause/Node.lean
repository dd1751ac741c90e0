import SelectBuilder.Clause.Basic

/-!
# Clause nodes made by hand

A node is a clause whose fields were filled in directly, with values of any kind. It is rendered by
the rules of clauses as far as its fields allow.
-/
namespace SelectBuilder

inductive Node where
  | bare
  | select (columns : Value)
  | source (target : Value)
  | condition (kind : Option ConditionKind) (head parts : Value)
  | join (joinType target left right : Value)
  | groupBy (columns : Value)
  | orderBy (items : Value)
  | limit (count offset : Value)
  | union (query all : Value)

namespace Node

def kindNames : List String :=
  ["Clause", "SelectClause", "FromClause", "ConditionClause", "WhereClause", "HavingClause",
    "JoinClause", "GroupByClause", "OrderByClause", "LimitClause", "UnionClause"]

/-- Trailing fields that are left out have their defaults. -/
def ofFields (kindName : String) (fields : List Value) : Outcome Node :=
  match kindName, fields with
  | "Clause", [] => .ok bare
  | "SelectClause", [c] => .ok (select c)
  | "FromClause", [t] => .ok (source t)
  | "ConditionClause", [h] => .ok (condition none h (.list []))
  | "ConditionClause", [h, p] => .ok (condition none h p)
  | "WhereClause", [h] => .ok (condition (some .rows) h (.list []))
  | "WhereClause", [h, p] => .ok (condition (some .rows) h p)
  | "HavingClause", [h] => .ok (condition (some .groups) h (.list []))
  | "HavingClause", [h, p] => .ok (condition (some .groups) h p)
  | "JoinClause", [j, t, l, r] => .ok (join j t l r)
  | "GroupByClause", [c] => .ok (groupBy c)
  | "OrderByClause", [i] => .ok (orderBy i)
  | "LimitClause", [c] => .ok (limit c .null)
  | "LimitClause", [c, o] => .ok (limit c o)
  | "UnionClause", [q] => .ok (union q (.bool false))
  | "UnionClause", [q, a] => .ok (union q a)
  | _, _ => .error (if kindNames.contains kindName then .wrongType else .missingAttribute)

def keyword : Node → String
  | bare => ""
  | select _ => "SELECT"
  | source _ => "FROM"
  | condition kind _ _ => (kind.map ConditionKind.keyword).getD ""
  | join _ _ _ _ => "JOIN"
  | groupBy _ => "GROUP BY"
  | orderBy _ => "ORDER BY"
  | limit _ _ => "LIMIT"
  | union _ _ => "UNION"

def conditionName : Option ConditionKind → String
  | none => "ConditionClause"
  | some .rows => "WhereClause"
  | some .groups => "HavingClause"

/-- A bare node has no fields to show. -/
def quotedForm (name : Reference → Outcome String) : Node → Option (Outcome String)
  | bare => none
  | select c => shown "SelectClause" [("columns", c)]
  | source t => shown "FromClause" [("target", t)]
  | condition kind h p => shown (conditionName kind) [("head", h), ("parts", p)]
  | join j t l r =>
    shown "JoinClause" [("join_type", j), ("target", t), ("left_column", l), ("right_column", r)]
  | groupBy c => shown "GroupByClause" [("columns", c)]
  | orderBy i => shown "OrderByClause" [("specs", i)]
  | limit c o => shown "LimitClause" [("limit", c), ("offset", o)]
  | union q a => shown "UnionClause" [("query", q), ("union_all", a)]
where
  shown (kindName : String) (fields : List (String × Value)) : Option (Outcome String) :=
    some (Value.fieldsText kindName (fields.map fun f => (f.1, f.2.quotedForm name)))

/-- Only conditions can be extended, and only if their parts are a list. -/
def extend (part : Value) : Node → Outcome Node
  | condition kind h (.list parts) => .ok (condition kind h (.list (parts ++ [part])))
  | _ => .error .missingAttribute

def entries (v : Value) : Outcome (List Value) :=
  match v.items? with
  | some vs => .ok vs
  | none => .error .wrongType

def render (r : Resolver) (n : Node) : Outcome String := do
  match n with
  | bare => .error .unimplemented
  | select c => Clause.listText "SELECT" (← (← entries c).mapM (Value.render r))
  | source t => Clause.sourceText r (← t.render r)
  | condition _ h p => Clause.conditionText n.keyword h (← entries p)
  | join j t left right => do
    let word ← j.inner
    Clause.joinText r word (← t.render r) left right
  | groupBy c => Clause.listText "GROUP BY" (← entries c)
  | orderBy i => Clause.listText "ORDER BY" (← (← entries i).mapM (Value.render r))
  | limit c o => Clause.limitText r c o
  | union q a => Clause.unionText r a.isTrue q

end Node

end SelectBuilder
