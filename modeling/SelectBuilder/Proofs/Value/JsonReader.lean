import SelectBuilder.Text.Hex
import SelectBuilder.Value.Json

/-!
# Reading JSON

A reader of JSON texts: blanks may stand between the parts, strings may hold every escape, and of
two halves that make up a pair one character is read. A whole number is read as such and any other
number as a decimal one. The characters of a string that is written are read back.
-/
namespace SelectBuilder.Json

/-! ## Strings -/

def isBlank (c : Char) : Bool := c == ' ' || c == '\n' || c == '\r' || c == '\t'

def skip (cs : List Char) : List Char := cs.dropWhile isBlank

/-- The number of four hexadecimal digits. -/
def readUnit : List Char → Option (Nat × List Char)
  | a :: b :: c :: d :: rest => do
    let a ← Text.Hex.digit? a
    let b ← Text.Hex.digit? b
    let c ← Text.Hex.digit? c
    let d ← Text.Hex.digit? d
    return (16 * (16 * (16 * a + b) + c) + d, rest)
  | _ => none

/-- The code point of a first half, if a second half follows it. -/
def readPair (first : Nat) : List Char → Option (Nat × List Char)
  | '\\' :: 'u' :: rest => do
    let (second, rest) ← readUnit rest
    if 0xd800 ≤ first ∧ first < 0xdc00 ∧ 0xdc00 ≤ second ∧ second < 0xe000 then
      return (0x10000 + 0x400 * (first - 0xd800) + (second - 0xdc00), rest)
    else none
  | _ => none

/-- Reads an escape after its backslash. -/
def readEscape : List Char → Option (List Char × List Char)
  | '"' :: rest => some (['"'], rest)
  | '\\' :: rest => some (['\\'], rest)
  | '/' :: rest => some (['/'], rest)
  | 'b' :: rest => some (['\x08'], rest)
  | 'f' :: rest => some (['\x0c'], rest)
  | 'n' :: rest => some (['\n'], rest)
  | 'r' :: rest => some (['\r'], rest)
  | 't' :: rest => some (['\t'], rest)
  | 'u' :: rest => do
    let (point, rest) ← readUnit rest
    let (point, rest) := (readPair point rest).getD (point, rest)
    return (Text.written point, rest)
  | _ => none

/-- Reads a string after its first quote. One more unit of fuel than there are characters is
enough. -/
def readChars : Nat → List Char → Option (List Char × List Char)
  | 0, _ => none
  | _, [] => none
  | n + 1, c :: rest =>
    if c = '"' then some ([], rest)
    else if c = '\\' then do
      let (read, rest) ← readEscape rest
      let (cs, rest) ← readChars n rest
      return (read ++ cs, rest)
    else if c.toNat < 32 then none
    else do
      let (cs, rest) ← readChars n rest
      return (c :: cs, rest)

/-! ## Numbers -/

/-- The digits after a point, if there is one. -/
def readPlaces : List Char → Option (List Char × List Char)
  | '.' :: rest =>
    if (rest.takeWhile Char.isDigit).isEmpty then none
    else some (rest.takeWhile Char.isDigit, rest.dropWhile Char.isDigit)
  | cs => some ([], cs)

/-- The power of ten, if there is one. -/
def readPower : List Char → Option (Option Int × List Char)
  | [] => some (none, [])
  | c :: rest =>
    if c = 'e' ∨ c = 'E' then
      let (negative, rest) := Number.splitSign rest
      let n : Int := Number.valueOf (rest.takeWhile Char.isDigit)
      if (rest.takeWhile Char.isDigit).isEmpty then none
      else some (some (if negative then -n else n), rest.dropWhile Char.isDigit)
    else some (none, c :: rest)

/-- The digits before a point. A zero is not followed by another digit. -/
def readWhole (cs : List Char) : Option (List Char × List Char) :=
  if cs.head? = some '0' then some (['0'], cs.tail)
  else if (cs.takeWhile Char.isDigit).isEmpty then none
  else some (cs.takeWhile Char.isDigit, cs.dropWhile Char.isDigit)

def readUnsigned (negative : Bool) (cs : List Char) : Option (Value × List Char) := do
  let (whole, cs) ← readWhole cs
  let (places, cs) ← readPlaces cs
  let (power, cs) ← readPower cs
  let n := Number.valueOf (whole ++ places)
  if places.isEmpty && power.isNone then return (.int (if negative then -n else n), cs)
  else return (.decimal (.finite negative n (power.getD 0 - places.length)), cs)

def readNumber : List Char → Option (Value × List Char)
  | '-' :: rest => readUnsigned true rest
  | cs => readUnsigned false cs

/-! ## Values -/

/-- Reads what stands between commas up to a closing character. -/
def readSequence {α : Type} (item : List Char → Option (α × List Char)) (close : Char) :
    Nat → List Char → Option (List α × List Char)
  | 0, _ => none
  | n + 1, cs => do
    let (a, rest) ← item cs
    match skip rest with
    | ',' :: rest => do
      let (as, rest) ← readSequence item close n rest
      return (a :: as, rest)
    | c :: rest => if c = close then return ([a], rest) else none
    | [] => none

/-- What stands between commas after an opening character, which may be nothing. -/
def readItems {α : Type} (item : List Char → Option (α × List Char)) (close : Char) (n : Nat)
    (cs : List Char) : Option (List α × List Char) :=
  match skip cs with
  | c :: rest => if c = close then some ([], rest) else readSequence item close n (c :: rest)
  | [] => none

def readMember (n : Nat) (value : List Char → Option (Value × List Char)) (cs : List Char) :
    Option ((Value × Value) × List Char) :=
  match skip cs with
  | '"' :: rest => do
    let (key, rest) ← readChars n rest
    match skip rest with
    | ':' :: rest => do
      let (v, rest) ← value rest
      return ((.text (String.ofList key), v), rest)
    | _ => none
  | _ => none

def readValue : Nat → List Char → Option (Value × List Char)
  | 0, _ => none
  | n + 1, cs =>
    match skip cs with
    | '"' :: rest => (readChars n rest).map fun p => (.text (String.ofList p.1), p.2)
    | '[' :: rest => (readItems (readValue n) ']' n rest).map fun p => (.list p.1, p.2)
    | '\x7b' :: rest =>
      (readItems (readMember n (readValue n)) '\x7d' n rest).map fun p => (.dict p.1, p.2)
    | 't' :: 'r' :: 'u' :: 'e' :: rest => some (.bool true, rest)
    | 'f' :: 'a' :: 'l' :: 's' :: 'e' :: rest => some (.bool false, rest)
    | 'n' :: 'u' :: 'l' :: 'l' :: rest => some (.null, rest)
    | rest => readNumber rest

/-- The value that a whole text stands for. -/
def read? (t : String) : Option Value :=
  match readValue (t.toList.length + 1) t.toList with
  | some (v, rest) => if skip rest = [] then some v else none
  | none => none

example : read? " [1, -2.50e1, \"a\\ud83d\\ude00\\n\", \x7b\"k\" : [true, null]\x7d] " =
    some (.list [.int 1, .decimal (.finite true 250 (-1)), .text "a😀\n",
      .dict [(.text "k", .list [.bool true, .null])]]) := by
  rfl

/-! ## Strings that are written -/

open Text.Json

theorem readUnit_append {cs : List Char} {n : Nat} (read : readUnit cs = some (n, []))
    (rest : List Char) : readUnit (cs ++ rest) = some (n, rest) := by
  unfold readUnit at read
  split at read
  · simp only [bind, Option.bind_eq_some_iff, pure, Option.some.injEq, Prod.mk.injEq] at read
    obtain ⟨a, ha, b, hb, c, hc, d, hd, rfl, rfl⟩ := read
    simp [readUnit, ha, hb, hc, hd]
  · cases read

theorem readUnit_hexadecimal {n : Nat} (control : n < 32) (rest : List Char) :
    readUnit (Text.hexadecimal 4 n ++ rest) = some (n, rest) := by
  have each : ∀ n < 32, readUnit (Text.hexadecimal 4 n) = some (n, []) := by decide
  exact readUnit_append (each n control) rest

theorem readPair_of_lt {n : Nat} (low : n < 0xd800) (rest : List Char) :
    readPair n rest = none := by
  unfold readPair
  split
  · cases readUnit _ with
    | none => rfl
    | some p => simp [Nat.not_le.mpr low]
  · rfl

theorem written_of_lt {c : Char} (control : c.toNat < 32) : Text.written c.toNat = [c] := by
  have character : Text.isHalf c.toNat = false := by
    simp only [Text.isHalf, decide_eq_false_iff_not]
    omega
  have other : c.toNat ≠ 0x10ffff := by omega
  simp [Text.written, character, other]

theorem readEscape_control {c : Char} (control : c.toNat < 32) (rest : List Char) :
    readEscape ('u' :: (Text.hexadecimal 4 c.toNat ++ rest)) = some ([c], rest) := by
  have single : readPair c.toNat rest = none := readPair_of_lt (by omega) rest
  simp [readEscape, readUnit_hexadecimal control, single, written_of_lt control]

theorem readChars_backslash {cs rest : List Char} {c : Char}
    (read : readEscape cs = some ([c], rest)) (n : Nat) :
    readChars (n + 1) ('\\' :: cs) = (readChars n rest).map fun p => (c :: p.1, p.2) := by
  have backslash : '\\' ≠ '"' := by decide
  simp only [readChars, backslash, read, if_false, if_true]
  cases known : readChars n rest <;> simp [known]

theorem readChars_plain {c : Char} (quote : c ≠ '"') (backslash : c ≠ '\\') (plain : ¬c.toNat < 32)
    (n : Nat) (rest : List Char) :
    readChars (n + 1) (c :: rest) = (readChars n rest).map fun p => (c :: p.1, p.2) := by
  simp only [readChars, quote, backslash, plain, if_false]
  cases readChars n rest <;> rfl

/-- However a character is written in a string, it is read. -/
theorem readChars_escape (c : Char) (n : Nat) (rest : List Char) :
    readChars (n + 1) (escape c ++ rest) =
      (readChars n rest).map fun p => (c :: p.1, p.2) := by
  unfold escape
  split
  case h_8 quote backslash _ _ _ _ _ =>
    split
    · next control => exact readChars_backslash (readEscape_control control rest) n
    · next plain => exact readChars_plain quote backslash plain n rest
  all_goals exact readChars_backslash rfl n

theorem readChars_string (cs : List Char) {n : Nat} (enough : cs.length < n) (rest : List Char) :
    readChars n (cs.flatMap escape ++ '"' :: rest) = some (cs, rest) := by
  induction cs generalizing n with
  | nil =>
    obtain ⟨m, rfl⟩ := Nat.exists_eq_succ_of_ne_zero (Nat.ne_of_gt enough)
    simp [readChars]
  | cons c cs ih =>
    obtain ⟨m, rfl⟩ := Nat.exists_eq_succ_of_ne_zero (Nat.ne_of_gt (Nat.zero_lt_of_lt enough))
    have enough : cs.length < m := by simpa using enough
    rw [List.flatMap_cons, List.append_assoc, readChars_escape, ih enough]
    rfl

end SelectBuilder.Json
