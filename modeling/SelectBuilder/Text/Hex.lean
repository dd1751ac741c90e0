import SelectBuilder.Text.Blank

/-!
# Bytes in hexadecimal

Two digits of either case a byte; blanks may stand before and after a byte but not inside it.
-/
namespace SelectBuilder.Text.Hex

def digit? (c : Char) : Option Nat :=
  if c.isDigit then some (c.toNat - '0'.toNat)
  else if 'a' ≤ c ∧ c ≤ 'f' then some (c.toNat - 'a'.toNat + 10)
  else if 'A' ≤ c ∧ c ≤ 'F' then some (c.toNat - 'A'.toNat + 10)
  else none

def decodeChars? : List Char → Option (List UInt8)
  | [] => some []
  | [c] => if isPlainBlank c then some [] else none
  | a :: b :: rest =>
    if isPlainBlank a then decodeChars? (b :: rest)
    else match digit? a, digit? b with
      | some high, some low => (decodeChars? rest).map (UInt8.ofNat (16 * high + low) :: ·)
      | _, _ => none

def decode? (s : String) : Option (List UInt8) := decodeChars? s.toList

end SelectBuilder.Text.Hex
