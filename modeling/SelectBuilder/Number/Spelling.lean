import SelectBuilder.Number.Digits
import SelectBuilder.Text.Blank
import SelectBuilder.Text.DecimalDigit

/-!
# Spelling of numerals

Numerals may be written with the digits of any script, with blanks around them, and with
underscores between two digits. What follows reduces such a text to plain digits and signs.
-/
namespace SelectBuilder.Number

/-- The plain character that a character stands for in a numeral; a question mark stands for those
that have no place in one. -/
def plainChar (c : Char) : Char :=
  if c.toNat < 128 then c
  else if Text.isBlank c then ' '
  else match Text.decimalDigit? c with
    | some d => Char.ofNat ('0'.toNat + d)
    | none => '?'

/-- Drops underscores, each of which has to stand between two digits. -/
def joinDigits? (afterDigit : Bool) : List Char → Option (List Char)
  | [] => some []
  | '_' :: c :: rest =>
    if afterDigit && c.isDigit then (joinDigits? true rest).map (c :: ·) else none
  | c :: rest => if c = '_' then none else (joinDigits? c.isDigit rest).map (c :: ·)

def numeralChars? (cs : List Char) : Option (List Char) :=
  joinDigits? false (Text.trimWhere Text.isPlainBlank (cs.map plainChar))

/-- Whole numbers are written and read with at most this many digits. -/
def greatestLength : Nat := 4300

def isLong (i : Int) : Bool := decide (Nat.pow 10 greatestLength ≤ i.natAbs)

/-- The whole number that a text spells. -/
def readWhole? (cs : List Char) : Option Int := do
  let (negative, ds) := splitSign (← numeralChars? cs)
  if ds ≠ [] ∧ ds.all Char.isDigit ∧ ds.length ≤ greatestLength then
    return if negative then -(valueOf ds : Int) else valueOf ds
  else none

end SelectBuilder.Number
