import SelectBuilder.Builder.Call

/-!
# Methods

The names under which calls are made and the parameters that each takes. Operands are matched with
the parameters by position and then by name; a parameter left out has its default if there is one.
-/
namespace SelectBuilder

structure Parameter where
  name : String
  default? : Option Value

def Parameter.required (name : String) : Parameter := ⟨name, none⟩

def Parameter.optional (name : String) (default : Value) : Parameter := ⟨name, some default⟩

inductive Signature where
  /-- Any number of operands by position. -/
  | many (call : List Value → Call)
  /-- One operand for every parameter, in their order. -/
  | fixed (parameters : List Parameter) (call : List Value → Option Call)

namespace Signature

def nullary (c : Call) : Signature :=
  .fixed [] fun
    | [] => some c
    | _ => none

def unary (parameter : Parameter) (call : Value → Call) : Signature :=
  .fixed [parameter] fun
    | [a] => some (call a)
    | _ => none

def binary (first second : Parameter) (call : Value → Value → Call) : Signature :=
  .fixed [first, second] fun
    | [a, b] => some (call a b)
    | _ => none

def join : Signature :=
  .fixed
    [.required "join_type", .required "target", .required "on",
      .optional "subquery" (.bool false)] fun
    | [t, target, on, subquery] => some (.join t target on subquery)
    | _ => none

/-- A join of a fixed type, with the target wrapped as a subquery or not. -/
def joinOf (t : JoinType) (subquery : Bool) : Signature :=
  binary (.required "target") (.required "on") fun target on =>
    .join (.joinType t) target on (.bool subquery)

def comparison (operator : String) : Signature :=
  unary (.required "value") (.compare (.text operator))

/-- Every operand names one parameter, and every parameter without a default has an operand. -/
def bind (parameters : List Parameter) (args : List Value) (named : List (String × Value)) :
    Option (List Value) :=
  let unfilled := parameters.drop args.length
  let known := named.all fun n => unfilled.any fun p => p.name == n.1
  if known && decide (args.length ≤ parameters.length) then
    (unfilled.mapM fun p => (named.lookup p.name).or p.default?).map (args ++ ·)
  else none

def call (s : Signature) (args : List Value) (named : List (String × Value)) : Outcome Call :=
  match s with
  | many make => if named.isEmpty then .ok (make args) else .error .wrongType
  | fixed parameters make =>
    match (bind parameters args named).bind make with
    | some c => .ok c
    | none => .error .wrongType

end Signature

def methods : List (String × Signature) :=
  [("select", .many .select),
    ("from_", .binary (.required "table_name") (.optional "alias" .null) .source),
    ("from_subquery", .binary (.required "subquery") (.required "alias") .sourceQuery),
    ("where", .unary (.required "column") .rows),
    ("compare", .binary (.required "operator") (.required "value") .compare),
    ("equals_to", .comparison "="),
    ("not_equals_to", .binary (.required "value") (.optional "operator" (.text "!=")) .differ),
    ("less_than", .comparison "<"),
    ("less_than_equals_to", .comparison "<="),
    ("greater_than", .comparison ">"),
    ("greater_than_equals_to", .comparison ">="),
    ("and_", .unary (.required "column") (.connect .and)),
    ("or_", .unary (.required "column") (.connect .or)),
    ("not_", .unary (.required "column") (.connect .not)),
    ("like", .unary (.required "pattern") (.like false)),
    ("not_like", .unary (.required "pattern") (.like true)),
    ("between", .binary (.required "start") (.required "end") (.between false)),
    ("not_between", .binary (.required "start") (.required "end") (.between true)),
    ("in_", .unary (.required "values") (.within false)),
    ("not_in", .unary (.required "values") (.within true)),
    ("is_null", .nullary (.isNull false)),
    ("is_not_null", .nullary (.isNull true)),
    ("join", .join),
    ("inner_join", .joinOf .inner false),
    ("inner_join_sub", .joinOf .inner true),
    ("left_join", .joinOf .left false),
    ("left_join_sub", .joinOf .left true),
    ("right_join", .joinOf .right false),
    ("right_join_sub", .joinOf .right true),
    ("full_join", .joinOf .full false),
    ("full_join_sub", .joinOf .full true),
    ("cross_join", .joinOf .cross false),
    ("cross_join_sub", .joinOf .cross true),
    ("self_join", .joinOf .self false),
    ("self_join_sub", .joinOf .self true),
    ("natural_join", .joinOf .natural false),
    ("natural_join_sub", .joinOf .natural true),
    ("group_by", .many .groupBy),
    ("having", .unary (.required "expression") .groups),
    ("order_by", .many .orderBy),
    ("pagination", .binary (.required "limit") (.optional "offset" .null) .paginate),
    ("limit", .unary (.required "value") fun v => .paginate v .null),
    ("union", .unary (.required "other") (.union false)),
    ("union_all", .unary (.required "other") (.union true))]

/-- The call that a method name makes of its operands. -/
def Call.ofMethod (name : String) (args : List Value) (named : List (String × Value)) :
    Outcome Call :=
  match methods.lookup name with
  | some s => s.call args named
  | none => .error .missingAttribute

end SelectBuilder
