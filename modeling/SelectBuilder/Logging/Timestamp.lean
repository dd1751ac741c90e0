import SelectBuilder.Failure
import SelectBuilder.Number.Digits
import SelectBuilder.Text.Case
import SelectBuilder.Text.CodePoint

/-!
# Timestamps

The text of a moment under a date format. A directive is a percent sign, flags, a width, perhaps a
modifier that asks for another calendar or other digits, and a letter that names a part of the
date. A directive that is not known, or does not take its modifier, stands for itself. The clock of
the library stands at the start of 1970, a Thursday, in universal time, and knows neither other
calendars nor other digits.
-/
namespace SelectBuilder.Logging

/-- What the case flags do to a word: the one raises it; the other raises, lowers or keeps it. -/
inductive WordCase where
  | raised | lowered | kept
  /-- Neither flag matters. -/
  | fixed
  deriving DecidableEq

/-- A number has a least count of digits and may be filled up with blanks by custom. -/
inductive DatePart where
  | number (value width : Nat) (blank : Bool)
  | word (s : String) (wordCase : WordCase)

def dateParts? : Char → Option (List DatePart)
  | 'Y' => some [.number 1970 4 false]
  | 'G' => some [.number 1970 4 false]
  | 'C' => some [.number 19 2 false]
  | 'y' => some [.number 70 2 false]
  | 'g' => some [.number 70 2 false]
  | 'm' => some [.number 1 2 false]
  | 'd' => some [.number 1 2 false]
  | 'e' => some [.number 1 2 true]
  | 'H' => some [.number 0 2 false]
  | 'k' => some [.number 0 2 true]
  | 'I' => some [.number 12 2 false]
  | 'l' => some [.number 12 2 true]
  | 'M' => some [.number 0 2 false]
  | 'S' => some [.number 0 2 false]
  | 'j' => some [.number 1 3 false]
  | 'U' => some [.number 0 2 false]
  | 'W' => some [.number 0 2 false]
  | 'V' => some [.number 1 2 false]
  | 'u' => some [.number 4 1 false]
  | 'w' => some [.number 4 1 false]
  | 'z' => some [.word "+" .fixed, .number 0 4 false]
  | 's' => some [.word "0" .fixed]
  | 'a' => some [.word "Thu" .raised]
  | 'A' => some [.word "Thursday" .raised]
  | 'b' => some [.word "Jan" .raised]
  | 'h' => some [.word "Jan" .raised]
  | 'B' => some [.word "January" .raised]
  | 'p' => some [.word "AM" .lowered]
  | 'P' => some [.word "am" .fixed]
  | 'Z' => some [.word "UTC" .lowered]
  | 'n' => some [.word "\n" .fixed]
  | 't' => some [.word "\t" .fixed]
  | '%' => some [.word "%" .fixed]
  | 'c' => some [.word "Thu Jan  1 00:00:00 1970" .kept]
  | 'x' => some [.word "01/01/70" .kept]
  | 'X' => some [.word "00:00:00" .kept]
  | 'D' => some [.word "01/01/70" .kept]
  | 'F' => some [.word "1970-01-01" .kept]
  | 'T' => some [.word "00:00:00" .kept]
  | 'R' => some [.word "00:00" .kept]
  | 'r' => some [.word "12:00:00 AM" .kept]
  | _ => none

/-- The letters that take a modifier. -/
def takesModifier (modifier letter : Char) : Bool :=
  match modifier with
  | 'E' => "%CPRTXYZcnprstuxyz".toList.contains letter
  | 'O' => "%BCGHIMPRSTUVWZbdeghjklmnprstuwyz".toList.contains letter
  | _ => true

/-- The letters of the short name of the month raise even a directive that stands for itself. -/
def isShortMonth (letter : Char) : Bool := letter == 'b' || letter == 'h'

/-- The last of the filling flags counts: a dash for none, an underscore for blanks, a zero. -/
structure DateFlags where
  fill : Option Char := none
  upper : Bool := false
  swapped : Bool := false

def readDateFlags (f : DateFlags) : List Char → DateFlags × List Char
  | '-' :: rest => readDateFlags { f with fill := some '-' } rest
  | '_' :: rest => readDateFlags { f with fill := some '_' } rest
  | '0' :: rest => readDateFlags { f with fill := some '0' } rest
  | '^' :: rest => readDateFlags { f with upper := true } rest
  | '#' :: rest => readDateFlags { f with swapped := true } rest
  | rest => (f, rest)

/-- Greek letters with an iota below have a capital of their own besides their full upper-case
form, which is of several characters. -/
def capitalWithIota? (n : Nat) : Option Nat :=
  if [0x1fb3, 0x1fc3, 0x1ff3].contains n then some (n + 9)
  else if [0x1f80 / 8, 0x1f90 / 8, 0x1fa0 / 8].contains (n / 8) then some (n + 8)
  else none

/-- The one upper-case character of a character; without one it stays. -/
def raise (c : Char) : Char :=
  match capitalWithIota? c.toNat, Text.upperChar c with
  | some n, _ => Char.ofNat n
  | none, [u] => u
  | none, _ => c

def applyCase (f : DateFlags) (wordCase : WordCase) (cs : List Char) : List Char :=
  match wordCase with
  | .fixed => cs
  | .lowered =>
    if f.swapped then cs.map Char.toLower else if f.upper then cs.map raise else cs
  | .raised => if f.swapped || f.upper then cs.map raise else cs
  | .kept => if f.upper then cs.map raise else cs

/-- Fills up with zeros if they are asked for, else with blanks. -/
def fillDate (f : DateFlags) (width : Nat) (cs : List Char) : List Char :=
  Number.padLeft (if f.fill = some '0' then '0' else ' ') width cs

def writeDatePart (f : DateFlags) (width : Nat) : DatePart → List Char
  | .word s wordCase => fillDate f width (applyCase f wordCase s.toList)
  | .number value least blank =>
    let ds := Number.digits value
    let blank := f.fill = some '_' ∨ (blank = true ∧ f.fill ≠ some '0')
    if f.fill = some '-' then Number.padLeft ' ' width ds
    else Number.padLeft (if blank then ' ' else '0') (max least width) ds

/-- Writes the directive that follows a percent sign, and gives the rest of the format. Widths are
cut at a limit beyond which no text is written anyway. -/
def writeDirective (limit : Nat) (cs : List Char) : List Char × List Char :=
  let (flags, afterFlags) := readDateFlags {} cs
  let width := min limit (Number.valueOf (afterFlags.takeWhile Char.isDigit))
  let afterWidth := afterFlags.dropWhile Char.isDigit
  let (modifier, tail) := match afterWidth with
    | 'E' :: t => ('E', t)
    | 'O' :: t => ('O', t)
    | t => (' ', t)
  let asItStands (wordCase : WordCase) (rest : List Char) : List Char × List Char :=
    let own := '%' :: cs.take (cs.length - rest.length)
    (fillDate flags width (applyCase flags wordCase own), rest)
  match tail with
  | [] => asItStands .kept []
  | letter :: rest =>
    match dateParts? letter with
    | some parts =>
      if takesModifier modifier letter then
        (parts.flatMap (writeDatePart flags width), rest)
      else asItStands (if isShortMonth letter then .raised else .kept) rest
    | none => asItStands .kept rest

/-- One more unit of fuel than the format has characters is enough. -/
def formatDate (limit : Nat) : Nat → List Char → List Char
  | 0, _ => []
  | _, [] => []
  | n + 1, '%' :: rest =>
    let (text, rest) := writeDirective limit rest
    text ++ formatDate limit n rest
  | n + 1, c :: rest => c :: formatDate limit n rest

/-- A text may be 256 times as long as its format, up to the next power of two, and in any case 1023
characters long. -/
def dateLimit (formatLength : Nat) : Nat := (max 1024 (256 * formatLength)).nextPowerOfTwo

/-- A text beyond the limit is empty. A format with a null character is refused. -/
def dateText (format : String) : Outcome String :=
  let cs := format.toList
  let limit := dateLimit (Text.length format)
  if cs.contains '\x00' then .error .wrongValue
  else
    let text := String.ofList (formatDate limit (cs.length + 1) cs)
    .ok (if Text.length text < limit then text else "")

def defaultDateFormat : String := "%Y-%m-%d %H:%M:%S"

/-- Without a format of its own a timestamp shows milliseconds after a comma. -/
def timestamp (format : Option String) : Outcome String :=
  match format with
  | some f => if f = "" then milliseconds else dateText f
  | none => milliseconds
where
  milliseconds : Outcome String := do return (← dateText defaultDateFormat) ++ ",000"

end SelectBuilder.Logging
