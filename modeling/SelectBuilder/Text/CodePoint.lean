/-!
# Code points

A text is a row of code points: characters, and halves of surrogate pairs that stand alone. Such a
half is no character, and a text that holds one has no encoding. In a `String` it is written as the
last of all characters, the marker, and a private character that tells which half it is; the marker
itself is written twice. All other characters stand for themselves, so texts are put together, cut
at plain characters and compared as strings; only lengths and places are counted in code points.
-/
namespace SelectBuilder.Text

def isHalf (n : Nat) : Bool := decide (0xd800 ≤ n ∧ n ≤ 0xdfff)

def isCodePoint (n : Nat) : Bool := decide (n ≤ 0x10ffff)

def marker : Char := Char.ofNat 0x10ffff

/-- How a code point is written in a string. -/
def written (n : Nat) : List Char :=
  if isHalf n then [marker, Char.ofNat (n + 0x100000)]
  else if n = 0x10ffff then [marker, marker]
  else [Char.ofNat n]

/-- The code point that the character after a marker tells. -/
def told (c : Char) : Nat := if c = marker then 0x10ffff else c.toNat - 0x100000

def codePointsOf : List Char → List Nat
  | [] => []
  | [c] => [c.toNat]
  | c :: d :: rest =>
    if c = marker then told d :: codePointsOf rest else c.toNat :: codePointsOf (d :: rest)

def codePoints (s : String) : List Nat := codePointsOf s.toList

def ofCodePoints (ns : List Nat) : String := String.ofList (ns.flatMap written)

def length (s : String) : Nat := (codePoints s).length

/-- Texts are held up to this length. -/
def greatestLength : Nat := Nat.pow 2 31

def isEncodable (s : String) : Bool := !(codePoints s).any isHalf

/-- The order of texts is that of their code points: a text comes before another, or is it, where
the other is not strictly before it. -/
def precedes (s t : String) : Bool := !(codePoints t).lex (codePoints s) Nat.blt

theorem toNat_ofNat {n : Nat} (h : isCodePoint n) (hn : isHalf n = false) :
    (Char.ofNat n).toNat = n := by
  have hv : n.isValidChar := by
    simp only [isCodePoint, isHalf, decide_eq_true_eq, decide_eq_false_iff_not] at h hn
    simp only [Nat.isValidChar]
    omega
  rw [Char.ofNat, dif_pos hv]
  rfl

end SelectBuilder.Text
