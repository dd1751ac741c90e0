import SelectBuilder.Proofs.Logging.ConsoleLine
import SelectBuilder.Proofs.Session.Outline
import SelectBuilder.Proofs.Session.Reconfiguration

/-!
# What the console tells of the operands

What a step tells is known from the outline of the session and from the method that is called, but
for the text and the dialect of a finished statement. So runs of the same methods that fare the same
show the same on the console, whatever their operands are.
-/
namespace SelectBuilder

open Outcome Logging

namespace Logging

/-- The record of a finished statement without what the statement has come to. -/
def finishedRecord : Record := (shown "" .null).redacted

/-- Debugging records are wanted, as plain lines. -/
def State.Plain (l : State) : Prop :=
  ∃ setup, l.setup = some setup ∧ setup.level = debugLevel ∧ setup.structured = false

end Logging

namespace Step

/-- Two steps use the same method of the same objects, with any operands. Only of two calls of a
comparison whose operator is an operand do the operators have to be the same. -/
inductive Like : Step → Step → Prop where
  | new (name config config') : Like (.new name config) (.new name config')
  | config (name fields fields') : Like (.config name fields) (.config name fields')
  | factory (name config config' dialect dialect') :
    Like (.factory name config dialect) (.factory name config' dialect')
  | select (name factory factory' columns columns' dialect dialect') :
    Like (.select name factory columns dialect) (.select name factory' columns' dialect')
  | call (on method args args' named named')
    (operator : method ∈ operatorMethods → ∀ c c', Call.ofMethod method args named = .ok c →
      Call.ofMethod method args' named' = .ok c' → c.sign = c'.sign) :
    Like (.call on method args named) (.call on method args' named')
  | copy (on name) : Like (.copy on name) (.copy on name)
  | build (on) : Like (.build on) (.build on)
  | clauses (on) : Like (.clauses on) (.clauses on)
  | quoted (on) : Like (.quoted on) (.quoted on)
  | text (on) : Like (.text on) (.text on)
  | read (on reader reader') : Like (.read on reader) (.read on reader')
  | assign (on field field' value value') : Like (.assign on field value) (.assign on field' value')
  | settings (on) : Like (.settings on) (.settings on)
  | equal (a b a' b') : Like (.equal a b) (.equal a' b')
  | correlate (id id') : Like (.correlate id) (.correlate id')

theorem Like.method {on method : String} {args args' : List Value}
    {named named' : List (String × Value)} (other : method ∉ operatorMethods) :
    Like (.call on method args named) (.call on method args' named') :=
  .call _ _ _ _ _ _ fun asked => absurd asked other

/-- Whether a factory is given columns in a step. -/
def fills (o : String → Option Outline) : Step → Bool
  | .select _ _ columns _ => !columns.isEmpty
  | .call on method args _ =>
    match o on with
    | some .factory => method == "select" && !args.isEmpty
    | _ => false
  | _ => false

/-- What a step tells if it goes through, without what is redacted. -/
def tells (o : String → Option Outline) (x : Step) : Option Record :=
  if x.fills o then some (added "SELECT" 1)
  else
    match x with
    | .build _ => some finishedRecord
    | .call on method args named =>
      match o on, Call.ofMethod method args named with
      | some (.statement ks), .ok c => some (c.tells ks)
      | some (.statement _), .error _ => if method = "build" then some finishedRecord else none
      | _, _ => none
    | _ => none

end Step

namespace Session

variable {s t done : Session} {x y : Step} {result : Result} {report : Option Store.Report}
  {r : Store.Report} {id : Nat} {on method : String} {args : List Value}
  {named : List (String × Value)}

/-! ## What a step tells -/

/-- The records that are emitted in a run. -/
def emitted (s : Session) : List Step → List Record
  | [] => []
  | x :: xs => ((s.emitted? x).map (·.record)).toList ++ (s.step x).1.emitted xs

/-- The lines that the console gets in a run. -/
def console (s : Session) : List Step → List String
  | [] => []
  | x :: xs => (s.step x).2.delivery.console ++ (s.step x).1.console xs

/-- What holds of every session that is reached, and makes the records of the builders go out as
soon as they are wanted. -/
structure Sound (s : Session) : Prop where
  distinct : s.Distinct
  consistent : ∀ b ∈ s.store.builders, b.Consistent
  ready : s.logging.Ready

theorem Sound.step (h : s.Sound) (x : Step) : (s.step x).1.Sound where
  distinct := (draws_step h.distinct x).distinct h.distinct
  consistent := consistent_builders h.consistent [x]
  ready := ready_step h.ready x

theorem Sound.run (h : s.Sound) (xs : List Step) : (s.run xs).Sound := by
  induction xs generalizing s with
  | nil => exact h
  | cons x xs ih => exact ih (h.step x)

/-- A statement with a column that is compared to a value. -/
def comparison (column : String) (value : Value) : List Step :=
  [.new "q" (.fields []), .call "q" "select" [.text column] [], .call "q" "where" [.text column] [],
    .call "q" "compare" [.text "<", value] [], .build "q"]

end Session

end SelectBuilder
