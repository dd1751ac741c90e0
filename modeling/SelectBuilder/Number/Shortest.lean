import SelectBuilder.Number.Exact

/-!
# Shortest decimal text of a binary number

A double is written with the fewest digits that read back as the same double, and among those with
the digits nearest to it. A style then decides which orders of magnitude are written with a plain
point and how an exponent is spelled.
-/
namespace SelectBuilder.Number

/-- The numbers that read back as a double lie around it: its value and both ends, counted in
quarters of its last binary place. The ends belong to it iff its mantissa is even. -/
structure Interval where
  low : Nat
  value : Nat
  high : Nat
  closed : Bool
  unit : Int

def Interval.ofBinary (mantissa : Nat) (exponent : Int) : Interval where
  low := if mantissa = Nat.pow 2 52 ∧ Double.leastExponent < exponent then 4 * mantissa - 1
    else 4 * mantissa - 2
  value := 4 * mantissa
  high := 4 * mantissa + 2
  closed := mantissa % 2 == 0
  unit := exponent - 2

/-- Whether c steps of a decimal grid fall into the interval, both counted in one common unit. -/
def Interval.holds (i : Interval) (quarter step c : Nat) : Bool :=
  if i.closed then decide (i.low * quarter ≤ c * step ∧ c * step ≤ i.high * quarter)
  else decide (i.low * quarter < c * step ∧ c * step < i.high * quarter)

/-- The point of the grid of powers 10 ^ place that stands for the interval, if there is one. -/
def Interval.nearest? (i : Interval) (place : Int) : Option Nat :=
  let (quarter, step) := scale 10 (-place) (scale 2 i.unit (1, 1))
  let below := i.value * quarter / step
  let above := below + 1
  match i.holds quarter step below, i.holds quarter step above with
  | false, false => none
  | true, false => some below
  | false, true => some above
  | true, true =>
    let down := i.value * quarter - below * step
    let up := above * step - i.value * quarter
    some (if down < up then below else if up < down then above else below + below % 2)

/-- Seventeen digits always suffice. -/
def shortest (mantissa : Nat) (exponent : Int) : Nat × Int :=
  let i := Interval.ofBinary mantissa exponent
  let (num, den) := Double.ratio mantissa exponent
  let order := decimalOrder num den
  let found := (List.range 17).findSome? fun (n : Nat) =>
    (i.nearest? (order - n)).map fun c => (c, order - n)
  let (c, e) := found.getD (0, 0)
  stripZeros c e

structure FloatStyle where
  least : Int
  greatest : Int
  plus : Bool
  exponentWidth : Nat

/-- A point stands for itself from 0.0001 up to below 10 ^ 16; an exponent has a sign and at least
two digits. -/
def FloatStyle.plain : FloatStyle := ⟨-4, 15, true, 2⟩

/-- The style of numbers in JSON: an exponent is as short as it can be. -/
def FloatStyle.json : FloatStyle := ⟨-5, 15, false, 1⟩

def FloatStyle.exponentChars (style : FloatStyle) (order : Int) : List Char :=
  let sign := if order < 0 then ['-'] else if style.plus then ['+'] else []
  'e' :: sign ++ padLeft '0' style.exponentWidth (digits order.natAbs)

/-- Digits with a point; there is at least one digit on either side of it. -/
def positional (ds : List Char) (order : Int) : List Char :=
  if order < 0 then '0' :: '.' :: List.replicate (-order - 1).toNat '0' ++ ds
  else
    let whole := order.toNat + 1
    let fraction := ds.drop whole
    ds.take whole ++ List.replicate (whole - ds.length) '0' ++
      '.' :: (if fraction = [] then ['0'] else fraction)

def FloatStyle.finiteChars (style : FloatStyle) (mantissa : Nat) (exponent : Int) : List Char :=
  if mantissa = 0 then ['0', '.', '0']
  else
    let (c, e) := shortest mantissa exponent
    let ds := digits c
    let order := e + ds.length - 1
    if style.least ≤ order ∧ order ≤ style.greatest then positional ds order
    else
      let fraction := if ds.tail = [] then [] else '.' :: ds.tail
      ds.take 1 ++ fraction ++ style.exponentChars order

def FloatStyle.signedText (style : FloatStyle) (negative : Bool) (m : Nat) (e : Int) : String :=
  String.ofList ((if negative then ['-'] else []) ++ style.finiteChars m e)

namespace Double

def text : Double → String
  | .nan => "nan"
  | .infinite negative => if negative then "-inf" else "inf"
  | .finite negative m e => FloatStyle.plain.signedText negative m e

/-- JSON has no numbers but the finite ones. -/
def jsonText : Double → String
  | .finite negative m e => FloatStyle.json.signedText negative m e
  | _ => "null"

end Double

end SelectBuilder.Number
