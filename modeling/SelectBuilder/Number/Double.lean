import SelectBuilder.Number.Spelling

/-!
# Binary floating-point numbers

The numbers of the 64-bit binary format, kept as exact data: a sign, a mantissa below 2 to the 53
and a power of two from -1074 to 971. Reading a numeral gives the nearest of them, and of two
equally near ones the one with the even mantissa.
-/
namespace SelectBuilder.Number

inductive Double where
  | nan
  | infinite (negative : Bool)
  | finite (negative : Bool) (mantissa : Nat) (exponent : Int)
  deriving DecidableEq

namespace Double

def leastExponent : Int := -1074

def greatestExponent : Int := 971

/-- The order of the leading binary digit of a positive ratio. -/
def binaryOrder (num den : Nat) : Int :=
  let e : Int := (Nat.log2 num : Int) - Nat.log2 den
  let (n, d) := scale 2 (-e) (num, den)
  if d ≤ n then e else e - 1

def ofRatio (negative : Bool) (num den : Nat) : Double :=
  if num = 0 then .finite negative 0 leastExponent
  else
    let e := max (binaryOrder num den - 52) leastExponent
    let (n, d) := scale 2 (-e) (num, den)
    let m := roundHalfEven n d
    let (m, e) := if m = Nat.pow 2 53 then (Nat.pow 2 52, e + 1) else (m, e)
    if greatestExponent < e then .infinite negative else .finite negative m e

/-- Numerals far outside the range are settled by their order alone. -/
def ofNumeral (n : Numeral) : Double :=
  if n.coefficient = 0 then .finite n.negative 0 leastExponent
  else
    let order := n.exponent + (digits n.coefficient).length
    if order < -400 then .finite n.negative 0 leastExponent
    else if 400 < order then .infinite n.negative
    else
      let (num, den) := scale 10 n.exponent (n.coefficient, 1)
      ofRatio n.negative num den

def ofChars? (cs : List Char) : Option Double :=
  let (negative, body) := splitSign cs
  let word := String.ofList (body.map Char.toLower)
  if word = "nan" then some .nan
  else if word = "inf" ∨ word = "infinity" then some (.infinite negative)
  else (Numeral.ofChars? cs).map ofNumeral

def ofText? (s : String) : Option Double := (numeralChars? s.toList).bind ofChars?

def isZero : Double → Bool
  | .finite _ m _ => m == 0
  | _ => false

/-- The magnitude of a finite number as a ratio. -/
def ratio (mantissa : Nat) (exponent : Int) : Nat × Nat := scale 2 exponent (mantissa, 1)

def ofInt (i : Int) : Double := ofRatio (decide (i < 0)) i.natAbs 1

/-- The whole part; only finite numbers have one. -/
def truncate? : Double → Option Int
  | .finite negative m e =>
    let (n, d) := ratio m e
    some (if negative then -((n / d : Nat) : Int) else (n / d : Nat))
  | _ => none

/-- The sum with a whole number, rounded. -/
def add (x : Double) (i : Int) : Double :=
  match x with
  | .finite negative m e =>
    let (n, d) := ratio m e
    let total := (if negative then -(n : Int) else n) + i * d
    ofRatio (decide (total < 0)) total.natAbs d
  | x => x

end Double

end SelectBuilder.Number
