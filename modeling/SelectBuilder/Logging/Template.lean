import SelectBuilder.Number.Fixed
import SelectBuilder.Value.Printer

/-!
# Message templates

A template is text with directives, each of which takes an argument: a percent sign, an optional
key between parentheses, flags, a width, a precision and a letter that says how the argument is
written. Two percent signs stand for one. Arguments are taken in order, and all of them must be
used; a single dictionary can be taken by its keys instead.
-/
namespace SelectBuilder.Logging

structure Flags where
  left : Bool := false
  plus : Bool := false
  blank : Bool := false
  alternate : Bool := false
  zero : Bool := false

/-- What a template still has to take its arguments from. -/
structure Supply where
  queue : List Value
  dictionary : Option (List (Value × Value)) := none
  /-- Arguments fetched by key need not be used up. -/
  counted : Bool := true

namespace Supply

/-- A dictionary on its own is both the one argument and the place to look up keys. -/
def ofArguments : List Value → Supply
  | [.dict (e :: rest)] => ⟨[.dict (e :: rest)], some (e :: rest), false⟩
  | args => ⟨args, none, true⟩

def next (s : Supply) : Outcome (Value × Supply) :=
  match s.queue with
  | v :: rest => .ok (v, { s with queue := rest })
  | [] => .error .wrongType

def lookup (s : Supply) (key : String) : Outcome Supply :=
  match s.dictionary with
  | none => .error .wrongType
  | some entries =>
    match entries.find? fun e => e.1.content? == some key with
    | some e => .ok { s with queue := [e.2] }
    | none => .error .missingKey

end Supply

/-- The text up to the parenthesis that closes a key, and what follows it. -/
def splitKey : Nat → List Char → Option (List Char × List Char)
  | _, [] => none
  | depth, ')' :: rest =>
    match depth with
    | 0 => some ([], rest)
    | d + 1 => (splitKey d rest).map fun p => (')' :: p.1, p.2)
  | depth, '(' :: rest => (splitKey (depth + 1) rest).map fun p => ('(' :: p.1, p.2)
  | depth, c :: rest => (splitKey depth rest).map fun p => (c :: p.1, p.2)

def readFlags (f : Flags) : List Char → Flags × List Char
  | '-' :: rest => readFlags { f with left := true } rest
  | '+' :: rest => readFlags { f with plus := true } rest
  | ' ' :: rest => readFlags { f with blank := true } rest
  | '#' :: rest => readFlags { f with alternate := true } rest
  | '0' :: rest => readFlags { f with zero := true } rest
  | rest => (f, rest)

def greatestWidth : Nat := Nat.pow 2 63 - 1

def greatestPrecision : Nat := Nat.pow 2 31 - 1

/-- A size is a run of digits or a star, which takes it from the arguments. It is bounded; from the
arguments it may also be negative, and then one further from zero. -/
def readSize (greatest : Nat) (s : Supply) (cs : List Char) :
    Outcome (Option Int × Supply × List Char) :=
  match cs with
  | '*' :: rest => do
    let (v, s) ← s.next
    let i ← v.index
    if (greatest : Int) < i ∨ i < -(greatest : Int) - 1 then .error .overflow
    else return (some i, s, rest)
  | cs =>
    let ds := cs.takeWhile Char.isDigit
    if greatest < Number.valueOf ds then .error .wrongValue
    else .ok (if ds = [] then none else some (Number.valueOf ds), s, cs.dropWhile Char.isDigit)

structure Directive where
  flags : Flags
  width : Nat
  precision : Option Nat
  letter : Char

/-- Reads a directive after its percent sign. A negative width puts the text to the left; the
least of all counts as none. -/
def readDirective (s : Supply) (cs : List Char) : Outcome (Directive × Supply × List Char) := do
  let (s, cs) ← match cs with
    | '(' :: rest =>
      if s.dictionary.isNone then .error .wrongType
      else match splitKey 0 rest with
        | some (key, rest) => (s.lookup (String.ofList key)).map fun s => (s, rest)
        | none => .error .wrongValue
    | cs => .ok (s, cs)
  let (flags, cs) := readFlags {} cs
  let (width?, s, cs) ← readSize greatestWidth s cs
  let width := width?.getD 0
  let flags := if width < 0 then { flags with left := true } else flags
  let (precision, s, cs) ← match cs with
    | '.' :: rest => do
      let (p?, s, rest) ← readSize greatestPrecision s rest
      pure (some (p?.getD 0).toNat, s, rest)
    | cs => pure (none, s, cs)
  let cs := match cs with
    | 'h' :: rest => rest
    | 'l' :: rest => rest
    | 'L' :: rest => rest
    | cs => cs
  match cs with
  | letter :: rest =>
    return (⟨flags, width.natAbs % (greatestWidth + 1), precision, letter⟩, s, rest)
  | [] => .error .wrongValue

def realNumber : Value → Outcome Number.Double
  | .double x => .ok x
  | .decimal (.nan true _ _) => .error .wrongValue
  | .decimal d => .ok d.toDouble
  | v => do
    match Number.Double.ofInt (← v.index) with
    | .infinite _ => .error .overflow
    | x => return x

/-- What an argument is written as before it is filled up to a width: a text, or a number with its
sign and marker in front. -/
inductive Field where
  | plain (s : String)
  | numeric (lead body : List Char)

def Field.fill (d : Directive) : Field → List Char
  | plain s =>
    let room := List.replicate (d.width - Text.length s) ' '
    if d.flags.left then s.toList ++ room else room ++ s.toList
  | numeric lead body =>
    let room := d.width - (lead.length + body.length)
    if d.flags.left then lead ++ body ++ List.replicate room ' '
    else if d.flags.zero then lead ++ List.replicate room '0' ++ body
    else List.replicate room ' ' ++ lead ++ body

def signChars (flags : Flags) (negative : Bool) : List Char :=
  if negative then ['-'] else if flags.plus then ['+'] else if flags.blank then [' '] else []

/-- A whole number in some base, filled up to the precision. -/
def wholeField (d : Directive) (base : Nat) (upper : Bool) (marker : List Char) (i : Int) :
    Outcome Field :=
  let precision := d.precision.getD 0
  let marker := if d.flags.alternate then marker else []
  if greatestPrecision - 3 < precision then .error .overflow
  else if Text.greatestLength ≤ precision + 4 then .error .outOfMemory
  else
    let ds := Number.padLeft '0' precision (Nat.toDigits base i.natAbs)
    .ok (.numeric (signChars d.flags (decide (i < 0)) ++ marker)
      (if upper then ds.map Char.toUpper else ds))

/-- Only the digits of base ten are limited in number. -/
def decimalField (d : Directive) (i : Int) : Outcome Field :=
  if Number.isLong i then .error .wrongValue else wholeField d 10 false [] i

/-- In the shorter form digits beyond the last one of a double make no difference. -/
def realPrecision (d : Directive) (form : Number.DigitForm) : Nat :=
  let precision := d.precision.getD 6
  if form = .general ∧ d.flags.alternate = false then min precision Number.greatestDigitCount
  else precision

def realField (d : Directive) (form : Number.DigitForm) (upper : Bool) (x : Number.Double) :
    Outcome Field :=
  let precision := realPrecision d form
  if x.truncate?.isSome && decide (Text.greatestLength ≤ precision + 4) then .error .outOfMemory
  else
    let cs := Number.fixedChars form precision d.flags.alternate x
    let body := if cs.head? = some '-' then cs.drop 1 else cs
    .ok (.numeric (signChars d.flags (cs.head? == some '-'))
      (if upper then body.map Char.toUpper else body))

/-- A text of one code point, which may be given by its number. -/
def pointText : Value → Outcome String
  | .text s => if Text.length s = 1 then .ok s else .error .wrongType
  | v => do
    let i ← v.index
    if i < 0 ∨ 0x10ffff < i then .error .overflow else return Text.ofCodePoints [i.toNat]

/-- A text up to the precision. -/
def cutField (d : Directive) (s : String) : Field :=
  .plain (match d.precision with
    | some p => Text.ofCodePoints ((Text.codePoints s).take p)
    | none => s)

def Directive.field (r : Resolver) (d : Directive) (v : Value) : Outcome Field :=
  match d.letter with
  | 's' => (v.toText r).map (cutField d)
  | 'r' => (v.quotedForm r.quoted).map (cutField d)
  | 'a' => (v.quotedForm r.quoted).map fun s => cutField d (Text.asciiOnly s)
  | 'd' => do decimalField d (← v.wholePart)
  | 'i' => do decimalField d (← v.wholePart)
  | 'u' => do decimalField d (← v.wholePart)
  | 'o' => do wholeField d 8 false ['0', 'o'] (← v.index)
  | 'x' => do wholeField d 16 false ['0', 'x'] (← v.index)
  | 'X' => do wholeField d 16 true ['0', 'X'] (← v.index)
  | 'e' => do realField d .scientific false (← realNumber v)
  | 'E' => do realField d .scientific true (← realNumber v)
  | 'f' => do realField d .places false (← realNumber v)
  | 'F' => do realField d .places true (← realNumber v)
  | 'g' => do realField d .general false (← realNumber v)
  | 'G' => do realField d .general true (← realNumber v)
  | 'c' => (pointText v).map .plain
  | _ => .error .wrongValue

/-- The text of an argument under a directive. -/
def Directive.apply (r : Resolver) (d : Directive) (v : Value) : Outcome (List Char) := do
  let field ← d.field r v
  if Text.greatestLength ≤ d.width then .error .outOfMemory else return field.fill d

/-- One more unit of fuel than the template has characters is enough. -/
def fillFrom (r : Resolver) : Nat → Supply → List Char → Outcome (List Char)
  | 0, _, _ => .ok []
  | _, s, [] => if s.counted && !s.queue.isEmpty then .error .wrongType else .ok []
  | n + 1, s, '%' :: '%' :: rest => do return '%' :: (← fillFrom r n s rest)
  | n + 1, s, '%' :: rest => do
    let (d, s, rest) ← readDirective s rest
    let (v, s) ← s.next
    let field ← d.apply r v
    return field ++ (← fillFrom r n s rest)
  | n + 1, s, c :: rest => do return c :: (← fillFrom r n s rest)

def fill (r : Resolver) (template : String) (args : List Value) : Outcome String := do
  let cs := template.toList
  return String.ofList (← fillFrom r (cs.length + 1) (.ofArguments args) cs)

end SelectBuilder.Logging
