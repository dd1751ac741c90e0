import SelectBuilder.Number.Exact
import SelectBuilder.Value.Basic

/-!
# Values as numbers

Numbers of all kinds are compared by their exact values. A truth value is a number too, one or
zero, and so is a code.
-/
namespace SelectBuilder

/-- What a number is compared by. -/
inductive Numeric where
  | exact (x : Number.Exact)
  | infinite (negative : Bool)
  | nan
  | signaling
  deriving DecidableEq

/-- Not-a-number equals nothing, and its signaling kind cannot be compared at all. -/
def Numeric.same : Numeric → Numeric → Outcome Bool
  | signaling, _ => .error .invalidOperation
  | _, signaling => .error .invalidOperation
  | nan, _ => .ok false
  | _, nan => .ok false
  | x, y => .ok (decide (x = y))

namespace Value

def numeric? : Value → Option Numeric
  | bool b => some (.exact (.ofInt (if b then 1 else 0)))
  | int i => some (.exact (.ofInt i))
  | code c => some (.exact (.ofInt c.number))
  | double .nan => some .nan
  | double (.infinite negative) => some (.infinite negative)
  | double (.finite negative m e) => some (.exact (.ofBinary negative m e))
  | decimal (.nan signaling _ _) => some (if signaling then .signaling else .nan)
  | decimal (.infinite negative) => some (.infinite negative)
  | decimal (.finite negative c e) => some (.exact (.make negative c e))
  | _ => none

/-- The value of a whole number of any kind. -/
def index? : Value → Option Int
  | bool b => some (if b then 1 else 0)
  | v => v.integer?

def index (v : Value) : Outcome Int :=
  match v.index? with
  | some i => .ok i
  | none => .error .wrongType

/-- The whole part of a number. -/
def wholePart : Value → Outcome Int
  | double (.infinite _) => .error .overflow
  | decimal (.infinite _) => .error .overflow
  | double x => (x.truncate?.map .ok).getD (.error .wrongValue)
  | decimal d => (d.truncate?.map .ok).getD (.error .wrongValue)
  | v => v.index

/-- The sum with a small whole number, in the arithmetic of the kind of the number. -/
def shifted (v : Value) (i : Int) : Outcome Value :=
  match v with
  | double x => .ok (double (x.add i))
  | decimal (.nan true _ _) => .error .invalidOperation
  | decimal d =>
    match d.add? i with
    | some d => .ok (decimal d)
    | none => .error .decimalOverflow
  | v => v.index.map fun k => int (k + i)

/-- Whether a number is zero or more. Of the two kinds of numbers that need not be a number at all,
doubles give no and decimal ones cannot be asked. -/
def isNatural : Value → Outcome Bool
  | double .nan => .ok false
  | double (.infinite negative) => .ok !negative
  | double (.finite negative m _) => .ok (!negative || m == 0)
  | decimal (.nan ..) => .error .invalidOperation
  | decimal (.infinite negative) => .ok !negative
  | decimal (.finite negative c _) => .ok (!negative || c == 0)
  | v => v.index.map fun i => decide (0 ≤ i)

end Value

end SelectBuilder
