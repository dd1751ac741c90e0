import SelectBuilder.Number.Exact

/-!
# Decimal numbers

Exact decimal numbers that remember their trailing zeros, with infinities and two kinds of
not-a-number that may carry digits. The text is the to-scientific-string of the general decimal
arithmetic: a plain point for exponents up to zero and values from 0.000001 on, else an exponent.
-/
namespace SelectBuilder.Number

inductive Decimal where
  | nan (signaling negative : Bool) (payload : Nat)
  | infinite (negative : Bool)
  | finite (negative : Bool) (coefficient : Nat) (exponent : Int)
  deriving DecidableEq

namespace Decimal

def greatestOrder : Int := 999999999999999999

def ofWord? (negative : Bool) (word : List Char) : Option Decimal :=
  let payload? (signaling : Bool) (ds : List Char) : Option Decimal :=
    if ds.all Char.isDigit then some (.nan signaling negative (valueOf ds)) else none
  match word with
  | 'n' :: 'a' :: 'n' :: ds => payload? false ds
  | 's' :: 'n' :: 'a' :: 'n' :: ds => payload? true ds
  | _ =>
    if word = "inf".toList ∨ word = "infinity".toList then some (.infinite negative) else none

def leastExponent : Int := -1999999999999999997

/-- The order of the leading digit is bounded above and the exponent below; a zero has no leading
digit, and its exponent is bounded on both sides. -/
def ofNumeral? (n : Numeral) : Option Decimal :=
  let order := if n.coefficient = 0 then n.exponent
    else n.exponent + (digits n.coefficient).length - 1
  if order ≤ greatestOrder ∧ leastExponent ≤ n.exponent then
    some (.finite n.negative n.coefficient n.exponent)
  else none

def ofChars? (cs : List Char) : Option Decimal :=
  let (negative, body) := splitSign cs
  match ofWord? negative (body.map Char.toLower) with
  | some d => some d
  | none => (Numeral.ofChars? cs).bind ofNumeral?

/-- Blanks around the numeral do not matter, nor do underscores anywhere in it. -/
def ofText? (s : String) : Option Decimal :=
  ofChars? (((Text.trimBlanks s.toList).filter fun c => c != '_').map plainChar)

def isZero : Decimal → Bool
  | .finite _ c _ => c == 0
  | _ => false

def signChars (negative : Bool) : List Char := if negative then ['-'] else []

def exponentChars (e : Int) : List Char :=
  'E' :: (if e < 0 then '-' else '+') :: digits e.natAbs

def finiteChars (coefficient : Nat) (exponent : Int) : List Char :=
  let ds := digits coefficient
  let order := exponent + ds.length - 1
  if exponent ≤ 0 ∧ -6 ≤ order then
    if exponent = 0 then ds
    else
      let places := (-exponent).toNat
      let padded := padLeft '0' (places + 1) ds
      padded.take (padded.length - places) ++ '.' :: padded.drop (padded.length - places)
  else
    let fraction := if ds.tail = [] then [] else '.' :: ds.tail
    ds.take 1 ++ fraction ++ exponentChars order

def chars : Decimal → List Char
  | .nan signaling negative payload =>
    signChars negative ++ (if signaling then "sNaN" else "NaN").toList ++
      (if payload = 0 then [] else digits payload)
  | .infinite negative => signChars negative ++ "Infinity".toList
  | .finite negative c e => signChars negative ++ finiteChars c e

def text (d : Decimal) : String := String.ofList d.chars

/-- The whole part of a finite number, unless it has more digits than the greatest length. -/
def truncate? : Decimal → Option Int
  | .finite negative c e =>
    let order := e + (digits c).length
    if c = 0 ∨ order ≤ 0 then some 0
    else if greatestLength < order then none
    else
      let n := c * Nat.pow 10 e.toNat / Nat.pow 10 (-e).toNat
      some (if negative then -(n : Int) else n)
  | _ => none

/-! ## Sums -/

/-- A sum has no more digits than this. -/
def sumLength : Nat := 28

/-- The order of the leading digit of a sum. -/
def greatestSumOrder : Int := 999999

/-- A finite sum, rounded to its digits, unless it is too great. -/
def rounded? (negative : Bool) (coefficient : Nat) (exponent : Int) : Option Decimal :=
  let excess := (digits coefficient).length - sumLength
  let c := roundHalfEven coefficient (Nat.pow 10 excess)
  let e := exponent + excess
  if c ≠ 0 ∧ greatestSumOrder < e + (digits c).length - 1 then none
  else some (.finite negative c e)

/-- A positive number with at most so many places. What is cut off leaves a one in the place after
them, so that rounding to fewer places is not affected. -/
def cut (places coefficient : Nat) (exponent : Int) : Nat × Int :=
  let excess := (-(places : Int) - exponent).toNat
  if excess = 0 then (coefficient, exponent)
  else if (digits coefficient).length < excess then (1, -(places : Int) - 1)
  else
    let unit := Nat.pow 10 excess
    (10 * (coefficient / unit) + (if coefficient % unit = 0 then 0 else 1), -(places : Int) - 1)

/-- Sums with small numbers are worked out in this many places on either side of the point. -/
def workingPlaces : Nat := 300

/-- The sum with a small whole number. -/
def add? (d : Decimal) (i : Int) : Option Decimal :=
  match d with
  | .finite negative c e =>
    if c = 0 then rounded? (decide (i < 0)) i.natAbs 0
    else if workingPlaces < e + (digits c).length then rounded? negative c e
    else
      let (c, e) := cut workingPlaces c e
      let (n, unit) := scale 10 e (c, 1)
      let total := (if negative then -(n : Int) else n) + i * unit
      rounded? (decide (total < 0)) total.natAbs (min e 0)
  | d => some d

/-- The nearest double of a number that is not a signaling not-a-number. -/
def toDouble : Decimal → Double
  | .nan .. => .nan
  | .infinite negative => .infinite negative
  | .finite negative c e => Double.ofNumeral ⟨negative, c, e⟩

end Decimal

end SelectBuilder.Number
