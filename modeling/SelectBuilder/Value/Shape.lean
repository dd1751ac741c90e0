import SelectBuilder.Failure

/-!
# Texts that show structure

How collections, calls and members of a vocabulary are put together from the texts of their parts.
A part may have no text; then the first failure among the parts is that of the whole.
-/
namespace SelectBuilder.Value

/-- A member of a closed vocabulary, with its name and its value. -/
def memberText (kind name shown : String) : String :=
  "<" ++ kind ++ "." ++ name ++ ": " ++ shown ++ ">"

def boolText (b : Bool) : String := if b then "True" else "False"

def enclosed (left right : String) (items : List (Outcome String)) : Outcome String := do
  return left ++ String.intercalate ", " (← items.mapM id) ++ right

def callText (name : String) (args : List (Outcome String)) : Outcome String :=
  enclosed (name ++ "(") ")" args

def fieldsText (name : String) (fields : List (String × Outcome String)) : Outcome String :=
  callText name (fields.map fun f => f.2.map fun s => f.1 ++ "=" ++ s)

def setText (items : List (Outcome String)) : Outcome String :=
  if items.isEmpty then .ok "set()" else enclosed "\x7b" "\x7d" items

/-- A tuple of one item has a comma after it. -/
def tupleText : List (Outcome String) → Outcome String
  | [item] => enclosed "(" ",)" [item]
  | items => enclosed "(" ")" items

def entryText (key value : Outcome String) : Outcome String := do
  return (← key) ++ ": " ++ (← value)

end SelectBuilder.Value
