import SelectBuilder.Number.Shortest

/-!
# Doubles with a given number of digits

A double written with a fixed number of places, with a mantissa and an exponent, or in the shorter
of the two ways. The digits are those of the nearest decimal number, ties going to the even one.
-/
namespace SelectBuilder.Number

inductive DigitForm where
  | places | scientific | general
  deriving DecidableEq

/-- Digits of the whole part, a point and the other digits. -/
def pointed (places : Nat) (keepPoint : Bool) (ds : List Char) : List Char :=
  let padded := padLeft '0' (places + 1) ds
  let cut := padded.length - places
  if places = 0 then padded ++ (if keepPoint then ['.'] else [])
  else padded.take cut ++ '.' :: padded.drop cut

/-- A mantissa of the given number of digits and the order of its first digit. -/
def mantissa (count : Nat) (num den : Nat) : Nat × Int :=
  if num = 0 then (0, 0)
  else
    let order := decimalOrder num den
    let (n, d) := scale 10 (count - 1 - order) (num, den)
    let m := roundHalfEven n d
    if m = Nat.pow 10 count then (m / 10, order + 1) else (m, order)

def exponentText (order : Int) : List Char :=
  'e' :: (if order < 0 then '-' else '+') :: padLeft '0' 2 (digits order.natAbs)

def placesChars (places : Nat) (keepPoint : Bool) (num den : Nat) : List Char :=
  pointed places keepPoint (digits (roundHalfEven (num * Nat.pow 10 places) den))

def scientificChars (places : Nat) (keepPoint : Bool) (num den : Nat) : List Char :=
  let (m, order) := mantissa (places + 1) num den
  pointed places keepPoint (padLeft '0' (places + 1) (digits m)) ++ exponentText order

/-- Drops the zeros at the end of a fraction, and a point left at the end. -/
def dropFractionZeros (cs : List Char) : List Char :=
  if cs.contains '.' then
    let kept := cs.reverse.dropWhile (· = '0')
    (match kept with
      | '.' :: rest => rest
      | all => all).reverse
  else cs

/-- An exponent is used below 0.0001 and from ten to the number of digits on. -/
def generalChars (digitCount : Nat) (keepZeros : Bool) (num den : Nat) : List Char :=
  let count := max digitCount 1
  let (m, order) := mantissa count num den
  let trim (cs : List Char) : List Char := if keepZeros then cs else dropFractionZeros cs
  if -4 ≤ order ∧ order < count then
    let places := (count - 1 - order).toNat
    trim (pointed places keepZeros (digits m))
  else
    trim (pointed (count - 1) keepZeros (padLeft '0' count (digits m))) ++ exponentText order

/-- No double has more digits than this; all further ones are zeros. -/
def greatestDigitCount : Nat := 1100

/-- Puts zeros at the end of the digits, before an exponent. -/
def insertZeros (count : Nat) (cs : List Char) : List Char :=
  let (ds, power) := cs.span (· ≠ 'e')
  ds ++ List.replicate count '0' ++ power

/-- In the shorter form zeros at the end are written only if the alternate form is asked for. -/
def fixedChars (form : DigitForm) (precision : Nat) (alternate : Bool) : Double → List Char
  | .nan => "nan".toList
  | .infinite negative => (if negative then "-inf" else "inf").toList
  | .finite negative m e =>
    let (num, den) := Double.ratio m e
    let worked := min precision greatestDigitCount
    let body := match form with
      | .places => placesChars worked alternate num den
      | .scientific => scientificChars worked alternate num den
      | .general => generalChars worked alternate num den
    let body := if form = .general ∧ alternate = false then body
      else insertZeros (precision - worked) body
    if negative then '-' :: body else body

end SelectBuilder.Number
