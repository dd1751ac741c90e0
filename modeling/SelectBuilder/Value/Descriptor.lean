import SelectBuilder.Text.Case
import SelectBuilder.Value.Printer

/-!
# Literals and descriptors

Literals are operands that say how they are written: bare, between quotes, or verbatim. Columns,
tables and orderings describe the entries of a clause. Each has a rendering, which is text unless
the descriptor holds something else in place of a name and adds nothing to it.
-/
namespace SelectBuilder

structure Column where
  name : Value
  aliasName : Value := .null

structure Table where
  source : Value
  aliasName : Value := .null
  isSubquery : Value := .bool false

structure SortItem where
  column : Value
  direction : Value := .null

def Column.value (c : Column) : Value := .column c.name c.aliasName

def Table.value (t : Table) : Value := .table t.source t.aliasName t.isSubquery

def SortItem.value (s : SortItem) : Value := .order s.column s.direction

/-- Texts put one after the other; anything that is not text is refused. -/
def joinContents (separator : String) (vs : List Value) : Outcome String :=
  match vs.mapM Value.content? with
  | some texts => .ok (String.intercalate separator texts)
  | none => .error .wrongType

def aliased (r : Resolver) (base aliasName : Value) : Outcome Value := do
  if aliasName.isTrue then
    let b ← base.toText r
    let a ← aliasName.toText r
    return .text (b ++ " AS " ++ a)
  else return base

def Column.render (r : Resolver) (c : Column) : Outcome Value := aliased r c.name c.aliasName

def Table.render (r : Resolver) (t : Table) : Outcome Value := do
  let target ← if t.isSubquery.isTrue then
      (t.source.toText r).map fun s => .text ("( " ++ s ++ " )")
    else pure t.source
  aliased r target t.aliasName

namespace Value

/-- The value that a member of a closed vocabulary or a plain literal carries, or that comes with
the end of an iteration. -/
def inner? : Value → Option Value
  | joinType t => some (text t.word)
  | direction d => some (text d.word)
  | code c => some (int c.number)
  | number v => some v
  | quoted v => some v
  | fault "StopIteration" args => some (args.headD null)
  | _ => none

def inner (v : Value) : Outcome Value :=
  match v.inner? with
  | some w => .ok w
  | none => .error .missingAttribute

theorem inner_eq_ok {v w : Value} : v.inner = .ok w ↔ v.inner? = some w := by
  unfold inner
  cases v.inner? <;> simp

end Value

def SortItem.render (r : Resolver) (s : SortItem) : Outcome Value := do
  if s.direction.isNull then return s.column
  else
    let c ← s.column.toText r
    let d ← (← s.direction.inner).toText r
    return .text (c ++ " " ++ d)

namespace Value

/-- Literals, descriptors and statements can be rendered, other values cannot. -/
def render (r : Resolver) : Value → Outcome Value
  | number v => do return text (← v.toText r)
  | quoted v => do return text ("'" ++ (← v.toText r) ++ "'")
  | raw v => .ok v
  | column n a => Column.render r ⟨n, a⟩
  | table s a q => Table.render r ⟨s, a, q⟩
  | order c d => SortItem.render r ⟨c, d⟩
  | reference (.builder id) => do return text (← r.statement id)
  | _ => .error .missingAttribute

/-- Numbers are written bare, text between quotes, truth values and nothing as keywords; any other
value is written as its text. -/
def toLiteral (r : Resolver) : Value → Outcome Value
  | number v => .ok (number v)
  | quoted v => .ok (quoted v)
  | raw v => .ok (raw v)
  | bool b => .ok (raw (text (if b then "TRUE" else "FALSE")))
  | null => .ok (raw (text "NULL"))
  | int i => .ok (number (int i))
  | double x => .ok (number (double x))
  | decimal d => .ok (number (decimal d))
  | code c => .ok (number (code c))
  | text s => .ok (quoted (text s))
  | joinType t => .ok (quoted (joinType t))
  | direction d => .ok (quoted (direction d))
  | v => do return raw (text (← v.toText r))

/-- An operand of a list or range: literals as they are written, other values as their text. -/
def toRaw (r : Resolver) : Value → Outcome Value
  | number v => (number v).render r
  | quoted v => (quoted v).render r
  | raw v => (raw v).render r
  | v => do return text (← v.toText r)

/-- The text of a statement in place of the statement; other values stay. -/
def embedded (r : Resolver) : Value → Outcome Value
  | reference (.builder id) => do return text (← r.statement id)
  | v => .ok v

/-- A column is a descriptor with a name, a name, or a name with an optional alias. -/
def toColumn? : Value → Option Column
  | column n a => if n.isTrue then some ⟨n, a⟩ else none
  | v =>
    if v.isText then if v.isTrue then some ⟨v, null⟩ else none
    else match v.sequence? with
      | some [n] => if n.isName then some ⟨n, null⟩ else none
      | some [n, a] => if n.isName then some ⟨n, a.orNull⟩ else none
      | _ => none

/-- A direction is read off the text of a value. One whose text fails for an unfit value is not
understood, as if it had another text. -/
def toDirection? (r : Resolver) : Value → Outcome (Option Value)
  | null => .ok (some null)
  | text "" => .ok (some null)
  | direction d => .ok (some (direction d))
  | v =>
    match v.toText r with
    | .ok t => .ok ((SortDirection.ofWord? (Text.upper t)).map direction)
    | .error e => if e.isOfValue then .ok none else .error e

theorem toDirection?_text (r : Resolver) {s : String} (filled : s ≠ "") :
    (text s).toDirection? r = .ok ((SortDirection.ofWord? (Text.upper s)).map direction) := by
  unfold toDirection?
  split
  · contradiction
  · next empty =>
    cases empty
    exact absurd rfl filled
  · contradiction
  · rfl

/-- What is understood as a direction is one, or stands for none. -/
theorem toDirection?_cases {r : Resolver} {v w : Value} (h : v.toDirection? r = .ok (some w)) :
    w = null ∨ ∃ d, w = direction d := by
  unfold toDirection? at h
  split at h
  · cases h
    exact .inl rfl
  · cases h
    exact .inl rfl
  · cases h
    exact .inr ⟨_, rfl⟩
  · split at h
    · obtain ⟨d, -, rfl⟩ := Option.map_eq_some_iff.mp (Except.ok.inj h)
      exact .inr ⟨d, rfl⟩
    · split at h <;> cases h

/-- An ordering is a descriptor with a column, a column, or a column with an optional direction,
whose case does not matter. -/
def toSortItem? (r : Resolver) : Value → Outcome (Option SortItem)
  | order c d => .ok (if c.isTrue then some ⟨c, d⟩ else none)
  | v =>
    if v.isText then .ok (if v.isTrue then some ⟨v, null⟩ else none)
    else match v.sequence? with
      | some [c] => .ok (if c.isName then some ⟨c, null⟩ else none)
      | some [c, d] => do
        if c.isName then return (← d.toDirection? r).map fun d => ⟨c, d⟩
        else return none
      | _ => .ok none

mutual

/-- Values that can be looked up in a fixed vocabulary. -/
def isHashable : Value → Bool
  | list _ => false
  | dict _ => false
  | set _ => false
  | reference _ => false
  | decimal (.nan true _ _) => false
  | tuple items => areHashable items
  | number v => v.isHashable
  | quoted v => v.isHashable
  | raw v => v.isHashable
  | column n a => n.isHashable && a.isHashable
  | table s a q => s.isHashable && a.isHashable && q.isHashable
  | order c d => c.isHashable && d.isHashable
  | _ => true

def areHashable : List Value → Bool
  | [] => true
  | v :: rest => v.isHashable && areHashable rest

end

/-- Whether a value is one of some words. A set is looked up by its items, so that it is none of
them; what cannot be looked up is refused. -/
def isOneOf (words : List String) : Value → Outcome Bool
  | set _ => .ok false
  | v =>
    if v.isHashable then .ok (v.content?.any fun s => words.contains s) else .error .wrongType

end Value

end SelectBuilder
