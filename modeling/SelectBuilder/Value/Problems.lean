import SelectBuilder.Value.Printer

/-!
# Making problems

The base class takes any number of operands and a detail of its own. The other classes take a
message, for which each has a default, and those that may carry a code take one in place of their
own. Operands that count as false are passed over. A code may be of any kind; it counts for as
much as the whole number that it can be read as.
-/
namespace SelectBuilder

/-- The whole number that a value can be read as: numbers are cut off, and texts and bytes are
numerals. -/
def Value.readWhole (v : Value) : Outcome Int :=
  let spelled (cs : List Char) : Outcome Int :=
    match Number.readWhole? cs with
    | some i => .ok i
    | none => .error .wrongValue
  match v, v.content? with
  | _, some s => spelled s.toList
  | bytes content, _ =>
    spelled (content.map fun b => if b < 128 then Char.ofNat b.toNat else '?')
  | v, none => v.wholePart

/-- The operands by name of a new problem; the message may be given by position as well. -/
structure ProblemOperands where
  args : List Value := []
  message : Option Value := none
  detail : Option Value := none
  code : Option ErrorCode := none

namespace Problem

def textsOf (r : Resolver) (args : List Value) : Outcome (List String) :=
  (args.filter Value.isTrue).mapM (Value.toText r)

/-- The code given by position, if any. -/
def codeOf : Value → Option ProblemCode
  | .null => none
  | .code c => some (.listed c)
  | v => some (.other v.readWhole)

/-- A detail is a text. What counts as false stands for none, and may be of any kind if there is
something else to take as the detail. -/
def detailOf (v : Value) (replaceable : Bool) : Outcome String :=
  match v.content? with
  | some s => .ok s
  | none => if v.isTrue || !replaceable then .error .wrongType else .ok ""

/-- A message and a code, each given at most once. -/
def messageAndCode (o : ProblemOperands) : Outcome (Value × Option ProblemCode) :=
  match o.args, o.message, o.code with
  | [], m, c => .ok (m.getD .null, c.map .listed)
  | [m], none, c => .ok (m, c.map .listed)
  | [m, c], none, none => .ok (m, codeOf c)
  | _, _, _ => .error .wrongType

def ofOperands (r : Resolver) (kind : ProblemClass) (title : String)
    (fallback : Option String) (o : ProblemOperands) : Outcome Problem :=
  match kind with
  | .base =>
    if o.message.isSome || o.code.isSome then .error .wrongType
    else do
      let texts ← textsOf r o.args
      let detail ← detailOf (o.detail.getD (.text "")) (!texts.isEmpty || fallback.isSome)
      return make .base title detail texts fallback none
  | kind =>
    if o.detail.isSome || (kind == .parsing && (o.code.isSome || 1 < o.args.length)) then
      .error .wrongType
    else do
      let (message, code) ← messageAndCode o
      let message := if message.isNull then .text kind.defaultMessage else message
      return make kind title "" (← textsOf r [message]) fallback
        (code.or (kind.code?.map .listed))

end Problem

/-- Whether a name is that of a class of errors. -/
def Value.isErrorClass (name : String) : Bool :=
  (ProblemClass.ofName? name).isSome || (Fault.family? (Fault.currentName name)).isSome

/-- An error of a named class, made from operands: a problem or a fault. -/
def Value.ofError (r : Resolver) (name : String) (args : List Value) : Outcome Value :=
  match ProblemClass.ofName? name with
  | some kind => do return .problem (← Problem.ofOperands r kind kind.name none { args })
  | none => Fault.make name args

end SelectBuilder
