import SelectBuilder.Value.Equality

/-!
# Reports of errors

The report of an error is its class and its text on one line. An error in a source text shows the
place first, with a mark under it. A group is followed by its members, each under a numbered rule
and indented, up to a greatest count and depth.
-/
namespace SelectBuilder.Logging

/-- The classes of this library are named with their place in it. -/
def errorClass : Value → String
  | .problem p => "querychain.exceptions." ++ p.title
  | v => v.kindName

def headline (r : Resolver) (v : Value) : String :=
  match v.toText r with
  | .ok "" => errorClass v
  | .ok text => errorClass v ++ ": " ++ text
  | .error _ => errorClass v ++ ": <exception str() failed>"

/-! ## Errors in a source text -/

/-- The characters that open an indented line of a source text. -/
def isIndent (c : Char) : Bool := c == ' ' || c == '\n' || c == '\x0c'

/-- A line of a source text without its indent, and the width of the indent. -/
def sourceLine (points : List Nat) : List Nat × Nat :=
  let line := (points.reverse.dropWhile (· = '\n'.toNat)).reverse
  let body := line.dropWhile fun n => isIndent (Char.ofNat n)
  (body, line.length - body.length)

def isZeroNumber (v : Value) : Bool :=
  v.numeric?.any fun x => (x.same (.exact (.ofInt 0))).toOption.getD false

/-- The column after the least mark at a column. Not-a-number has none other than itself. -/
def nextColumn (first : Value) : Outcome Value := do
  match first.numeric? with
  | some x => if ← x.same x then first.shifted 1 else return first
  | none => .error .wrongType

/-- The column after a mark that begins at a column: the next one if it is not known. -/
def lastColumn (s : Store) (first last : Value) : Outcome Value := do
  discard <| last.isOneOf []
  if isZeroNumber last || last.isNull then nextColumn first
  else if ← s.same first last then first.shifted 1
  else if ← s.same last (.int (-1)) then first.shifted 1
  else return last

/-- How many places there are from a column to another one, of any kind of number. -/
def markWidth (first : Int) : Value → Outcome Nat
  | .double _ =>
    .error (if Number.Double.ofInt first matches .infinite _ then .overflow else .wrongType)
  | v => do
    let width := (← v.index) - first
    if !Fault.withinWord width then .error .overflow
    else if (Text.greatestLength : Int) ≤ width then .error .outOfMemory
    else return width.toNat

/-- The mark under a line from a column to before another, both counted from one with the indent;
it has blanks before it as the line has. -/
def markLine (s : Store) (line : List Nat × Nat) (first last : Value) :
    Outcome (Option (List Char)) := do
  let last ← lastColumn s first last
  let first ← (← first.shifted (-1)).shifted (-line.2)
  let last ← (← last.shifted (-1)).shifted (-line.2)
  if ← first.isNatural then
    let place ← first.index
    let width ← markWidth place last
    let before := (line.1.take place.toNat).map fun n =>
      if Text.isBlank (Char.ofNat n) then Char.ofNat n else ' '
    return some (before ++ List.replicate width '^')
  else return none

def sourceText : Value → Outcome (List Nat)
  | .bytes _ => .error .wrongType
  | v =>
    match v.content? with
    | some s => .ok (Text.codePoints s)
    | none => .error .missingAttribute

/-- The line of a source text that is wrong, with a mark if the column is known. -/
def sourceLines (s : Store) (args : List Value) : Outcome (List String) :=
  match Fault.detail? 3 args with
  | none => .ok []
  | some v => do
    let line := sourceLine (← sourceText v)
    let mark ← match Fault.detail? 2 args with
      | some first => markLine s line first ((Fault.detail? 5 args).getD .null)
      | none => pure none
    return ("    " ++ Text.ofCodePoints line.1) ::
      mark.toList.map fun cs => "    " ++ String.ofList cs

def orWord (r : Resolver) (word : String) (v : Value) : Outcome String :=
  if v.isTrue then v.toText r else .ok word

/-- The place, the line that is wrong with its mark, and the headline of an error in a source text.
Without a line number the file is shown in the headline. -/
def locatedLines (s : Store) (name : String) (args : List Value) : Outcome (List String) := do
  let r := s.resolver
  let file := (Fault.detail? 0 args).getD .null
  let line ← (Fault.detail? 1 args).mapM (Value.toText r)
  discard <| (Fault.detail? 4 args).mapM (Value.toText r)
  let place ← line.mapM fun n => do
    return "  File \"" ++ (← orWord r "<string>" file) ++ "\", line " ++ n
  let suffix ←
    if line.isSome || file.isNull then pure "" else (file.toText r).map fun f => " (" ++ f ++ ")"
  let source ← sourceLines s args
  let message ← orWord r "<no detail available>" (args.headD .null)
  return place.toList ++ source ++ [name ++ ": " ++ message ++ suffix]

def ownLines (s : Store) (v : Value) : Outcome (List String) :=
  match v with
  | .fault name args =>
    if Fault.family? name == some .located then locatedLines s name args
    else .ok [headline s.resolver v]
  | v => .ok [headline s.resolver v]

/-! ## Groups -/

def greatestMembers : Nat := 15

def greatestDepth : Nat := 10

def isLineEnd (c : Char) : Bool :=
  decide (10 ≤ c.toNat ∧ c.toNat ≤ 13) || decide (28 ≤ c.toNat ∧ c.toNat ≤ 30) ||
    c.toNat == 0x85 || c.toNat == 0x2028 || c.toNat == 0x2029

/-- Puts a margin before every line; a carriage return and a line feed end one line. -/
def withMargin (margin : List Char) : Bool → List Char → List Char
  | _, [] => []
  | fresh, '\x0d' :: '\n' :: rest =>
    (if fresh then margin else []) ++ '\x0d' :: '\n' :: withMargin margin true rest
  | fresh, c :: rest =>
    (if fresh then margin else []) ++ c :: withMargin margin (isLineEnd c) rest

def indent (depth : Nat) : String := String.ofList (List.replicate (2 * depth) ' ')

/-- Texts at a depth, each with a line end after it; below the top they have a bar before them. -/
def atDepth (depth : Nat) (texts : List String) : String :=
  let margin := if depth = 0 then "" else indent depth ++ "| "
  String.join (texts.map fun t =>
    String.ofList (withMargin margin.toList true (t ++ "\n").toList))

def rule (depth index : Nat) (title : String) : String :=
  indent depth ++ (if index = 0 then "+-" else "  ") ++ "+---------------- " ++ title ++
    " ----------------\n"

/-- The last member is closed by a rule, unless it is a group that has closed itself. -/
def closing (depth : Nat) (isLast selfClosed : Bool) : String :=
  if isLast && !selfClosed then indent depth ++ "+------------------------------------\n" else ""

def isShownGroup (depth : Nat) : Value → Bool
  | .fault name _ => Fault.family? name == some .group && decide (depth ≤ greatestDepth)
  | _ => false

def remainder (depth count : Nat) : String :=
  rule depth greatestMembers "..." ++
    atDepth (depth + 1)
      ["and " ++ Number.natText count ++ " more exception" ++ (if count = 1 then "" else "s")] ++
    closing (depth + 1) true false

def joined (a b : Outcome String) : Outcome String := do return (← a) ++ (← b)

def joinedAll (texts : List (Outcome String)) : Outcome String := texts.foldr joined (.ok "")

mutual

/-- The lines of the report of an error at a depth of groups. -/
def reportAt (s : Store) (depth : Nat) : Value → Outcome String
  | .fault name args =>
    if Fault.family? name == some .group then
      if depth ≤ greatestDepth then
        joined (.ok (atDepth (max depth 1) [headline s.resolver (.fault name args)]))
          (reportMembers s (max depth 1) args)
      else .ok (atDepth depth ["... (max_group_depth is " ++ Number.natText greatestDepth ++ ")"])
    else (ownLines s (.fault name args)).map (atDepth depth)
  | v => (ownLines s v).map (atDepth depth)

/-- The members of a group, given its operands. -/
def reportMembers (s : Store) (depth : Nat) : List Value → Outcome String
  | [_, .list items] => reportEach s depth 0 items
  | [_, .tuple items] => reportEach s depth 0 items
  | _ => .ok ""

def reportEach (s : Store) (depth index : Nat) : List Value → Outcome String
  | [] => .ok ""
  | v :: rest =>
    if index = greatestMembers then .ok (remainder depth (rest.length + 1))
    else
      joinedAll
        [.ok (rule depth index (Number.natText (index + 1))), reportAt s (depth + 1) v,
          .ok (closing (depth + 1) rest.isEmpty (isShownGroup (depth + 1) v)),
          reportEach s depth (index + 1) rest]

end

/-- The report of an error; other values are none and have no report. -/
def report (s : Store) (v : Value) : Outcome String :=
  if Fault.isError v then
    (reportAt s 0 v).map fun t => String.ofList t.toList.dropLast
  else .error .missingAttribute

end SelectBuilder.Logging
