import SelectBuilder.Number.Double

/-!
# Exact values

Every finite number has one form c · 10 ^ e in which ten does not divide c. Numbers of different
kinds are compared through it.
-/
namespace SelectBuilder.Number

structure Exact where
  negative : Bool
  coefficient : Nat
  exponent : Int
  deriving DecidableEq

/-- Moves factors of ten from the coefficient to the exponent. -/
def stripZeros (coefficient : Nat) (exponent : Int) : Nat × Int :=
  if coefficient ≠ 0 ∧ coefficient % 10 = 0 then stripZeros (coefficient / 10) (exponent + 1)
  else (coefficient, exponent)
termination_by coefficient
decreasing_by omega

namespace Exact

/-- Zero has one form only, without sign. -/
def make (negative : Bool) (coefficient : Nat) (exponent : Int) : Exact :=
  if coefficient = 0 then ⟨false, 0, 0⟩
  else
    let (c, e) := stripZeros coefficient exponent
    ⟨negative, c, e⟩

def ofInt (i : Int) : Exact := make (decide (i < 0)) i.natAbs 0

/-- A negative power of two is a power of five over the same power of ten. -/
def ofBinary (negative : Bool) (mantissa : Nat) (exponent : Int) : Exact :=
  if 0 ≤ exponent then make negative (mantissa * Nat.pow 2 exponent.toNat) 0
  else make negative (mantissa * Nat.pow 5 (-exponent).toNat) exponent

end Exact

end SelectBuilder.Number
