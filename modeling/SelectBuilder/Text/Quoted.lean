import SelectBuilder.Text.CodePoint
import SelectBuilder.Text.Printable

/-!
# Quoted text

Text between quotes in which every character can be told apart: the quote and the backslash are
escaped, line ends and tabs have short escapes, and a character without a printed shape is shown
by its number in hexadecimal.
-/
namespace SelectBuilder.Text

/-- Hexadecimal digits in lower case, padded with zeros on the left. -/
def hexadecimal (width n : Nat) : List Char :=
  let ds := Nat.toDigits 16 n
  List.replicate (width - ds.length) '0' ++ ds

/-- The shortest of the three numbered escapes that has room for the code point. -/
def numbered (n : Nat) : List Char :=
  if n < 0x100 then '\\' :: 'x' :: hexadecimal 2 n
  else if n < 0x10000 then '\\' :: 'u' :: hexadecimal 4 n
  else '\\' :: 'U' :: hexadecimal 8 n

def shortEscape? : Char → Option (List Char)
  | '\n' => some ['\\', 'n']
  | '\r' => some ['\\', 'r']
  | '\t' => some ['\\', 't']
  | _ => none

/-- The double quote is used only where it saves an escape. -/
def quoteFor (ns : List Nat) : Char :=
  if ns.contains '\''.toNat && !ns.contains '"'.toNat then '"' else '\''

/-- The escape of a code point, or the character that it is; halves of pairs have no shape. -/
def escapePoint (quote : Char) (n : Nat) : List Char :=
  let c := Char.ofNat n
  if isHalf n then numbered n
  else if c = quote ∨ c = '\\' then ['\\', c]
  else match shortEscape? c with
    | some e => e
    | none => if isPrintable c then [c] else numbered n

def quoteChars (ns : List Nat) : List Char :=
  quoteFor ns :: ns.flatMap (escapePoint (quoteFor ns)) ++ [quoteFor ns]

def quoted (s : String) : String := String.ofList (quoteChars (codePoints s))

/-- Quoted bytes: only the plain characters of ASCII stand for themselves. -/
def quotedBytes (bytes : List UInt8) : String :=
  let ns := bytes.map UInt8.toNat
  let shown (n : Nat) : List Char := if n < 127 then escapePoint (quoteFor ns) n else numbered n
  String.ofList ('b' :: quoteFor ns :: ns.flatMap shown ++ [quoteFor ns])

/-- Every code point beyond ASCII is shown by its number. -/
def asciiOnly (s : String) : String :=
  String.ofList ((codePoints s).flatMap fun n => if n < 128 then [Char.ofNat n] else numbered n)

end SelectBuilder.Text
