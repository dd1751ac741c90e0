import SelectBuilder.Clause.Basic

/-!
# Builders

A builder is a statement in the making: its clauses in order, the places of the clauses that it
may hold only once, and a cursor on the condition that operators extend. A change either adds a
clause at the end or adds a part to the condition under the cursor. It is made in two stages,
between which it is reported: the place of a new clause is noted only after that.
-/
namespace SelectBuilder

/-- Where the condition under the cursor stands: there is none, a column waits for its operator,
or the last column has one. -/
inductive Stage where
  | absent | pending | complete
  deriving DecidableEq

def Stage.word : Stage → String
  | absent => "none"
  | pending => "open"
  | complete => "bound"

/-- The places of the clauses that occur at most once. -/
structure Slots where
  select : Option Nat := none
  source : Option Nat := none
  rows : Option Nat := none
  groups : Option Nat := none
  deriving DecidableEq

/-- A cursor that was never moved is told apart from one that was released. -/
structure Builder where
  config : Nat
  clauses : List Clause := []
  slots : Slots := {}
  cursor : Option Nat := none
  stage : Stage := .absent
  cursorMoved : Bool := false

inductive Change where
  | append (clause : Clause)
  | extend (operator part : String) (stage : Stage)

namespace Slots

/-- Notes that a clause stands at a place. -/
def record (s : Slots) (place : Nat) : Clause → Slots
  | .select _ => { s with select := some place }
  | .source _ => { s with source := some place }
  | .condition .rows _ _ => { s with rows := some place }
  | .condition .groups _ _ => { s with groups := some place }
  | _ => s

end Slots

namespace Builder

/-- A condition takes the cursor. Any other clause releases it under strict settings. -/
def append (strict : Bool) (b : Builder) (c : Clause) : Builder where
  config := b.config
  clauses := b.clauses ++ [c]
  slots := b.slots
  cursor := if c.isCondition then some b.clauses.length else if strict then none else b.cursor
  stage := if c.isCondition then .pending else if strict then .absent else b.stage
  cursorMoved := b.cursorMoved || c.isCondition || strict

/-- Without a condition under the cursor nothing changes. -/
def extend (b : Builder) (part : String) (stage : Stage) : Builder :=
  match b.cursor with
  | some place => { b with clauses := b.clauses.modify place (Clause.extend part), stage := stage }
  | none => b

/-- The builder when a change is reported. -/
def enter (strict : Bool) (b : Builder) : Change → Builder
  | .append c => b.append strict c
  | .extend _ part stage => b.extend part stage

/-- What follows the report: the place of the new clause, which is the last one, is noted. -/
def settle (b : Builder) : Change → Builder
  | .append c => { b with slots := b.slots.record (b.clauses.length - 1) c }
  | .extend _ _ _ => b

def apply (strict : Bool) (b : Builder) (c : Change) : Builder := (b.enter strict c).settle c

/-- The condition under the cursor. -/
def current? (b : Builder) : Option Clause := b.cursor.bind fun place => b.clauses[place]?

/-- The texts of the clauses with single spaces between them. -/
def render (r : Resolver) (b : Builder) : Outcome String := do
  return String.intercalate " " (← b.clauses.mapM (Clause.render r))

@[simp] theorem clauses_append (strict : Bool) (b : Builder) (c : Clause) :
    (b.append strict c).clauses = b.clauses ++ [c] := rfl

@[simp] theorem slots_append (strict : Bool) (b : Builder) (c : Clause) :
    (b.append strict c).slots = b.slots := rfl

@[simp] theorem slots_extend (b : Builder) (part : String) (stage : Stage) :
    (b.extend part stage).slots = b.slots := by
  unfold extend
  split <;> rfl

@[simp] theorem cursor_extend (b : Builder) (part : String) (stage : Stage) :
    (b.extend part stage).cursor = b.cursor := by
  unfold extend
  split <;> simp_all

@[simp] theorem length_extend (b : Builder) (part : String) (stage : Stage) :
    (b.extend part stage).clauses.length = b.clauses.length := by
  unfold extend
  split <;> simp

@[simp] theorem config_apply (strict : Bool) (b : Builder) (c : Change) :
    (b.apply strict c).config = b.config := by
  cases c with
  | append c => rfl
  | extend op part stage =>
    simp only [apply, enter, settle, extend]
    split <;> rfl

end Builder

end SelectBuilder
