import SelectBuilder.Text.Base64
import SelectBuilder.Text.Json
import SelectBuilder.Value.Printer

/-!
# Values as JSON

Plain data is written as the JSON of its kind: collections as arrays, dictionaries and descriptors
as objects, members of a vocabulary as the value they carry, bytes in base 64. A decimal number is
written as a string, so that no digit is lost. How objects of a store are written is given. Anything
else is written as the string of its text.
-/
namespace SelectBuilder

namespace Value

/-- Strings of JSON are encoded text. -/
def jsonString (s : String) : Outcome String :=
  if Text.isEncodable s then .ok (Text.Json.string s) else .error .unencodable

def jsonMember (key value : Outcome String) : Outcome (String × String) := do
  let k ← key
  if Text.isEncodable k then return (k, ← value) else .error .unencodable

def jsonObject (members : List (Outcome (String × String))) : Outcome String := do
  return Text.Json.object (← members.mapM id)

def jsonArray (items : List (Outcome String)) : Outcome String := do
  return Text.Json.array (← items.mapM id)

def jsonFields (fields : List (String × Outcome String)) : Outcome String :=
  jsonObject (fields.map fun f => jsonMember (.ok f.1) f.2)

def jsonBool (b : Bool) : String := if b then "true" else "false"

/-- The keys of an object are strings: numbers and members of a vocabulary are written as such, and
anything else as its text. -/
def jsonKey (r : Resolver) : Value → Outcome String
  | text s => .ok s
  | joinType t => .ok t.word
  | direction d => .ok d.word
  | code c => .ok (Number.natText c.number)
  | int i => .ok (Number.intText i)
  | double (.finite negative m e) => .ok (Number.Double.finite negative m e).jsonText
  | decimal d => .ok d.text
  | bytes content => .ok (Text.Base64.encode content)
  | v => v.toText r

mutual

def toJson (r : Resolver) (object : Reference → Outcome String) : Value → Outcome String
  | null => .ok "null"
  | bool b => .ok (jsonBool b)
  | int i => .ok (Number.intText i)
  | double x => .ok x.jsonText
  | decimal d => jsonString d.text
  | text s => jsonString s
  | joinType t => jsonString t.word
  | direction d => jsonString d.word
  | code c => .ok (Number.natText c.number)
  | list items => jsonArray (jsonItems r object items)
  | tuple items => jsonArray (jsonItems r object items)
  | set items => jsonArray (jsonItems r object items)
  | dict entries => jsonObject (jsonEntries r object entries)
  | bytes content => jsonString (Text.Base64.encode content)
  | number v => jsonFields [("value", v.toJson r object)]
  | quoted v => jsonFields [("value", v.toJson r object)]
  | raw v => jsonFields [("sql", v.toJson r object)]
  | column n a => jsonFields [("name", n.toJson r object), ("alias", a.toJson r object)]
  | table s a q =>
    jsonFields [("source", s.toJson r object), ("alias", a.toJson r object),
      ("is_subquery", q.toJson r object)]
  | order c d => jsonFields [("column", c.toJson r object), ("direction", d.toJson r object)]
  | reference x => object x
  | path location => jsonString location
  | problem p => jsonString p.text
  | fault name args => ((fault name args).toText r).bind jsonString
  | iterator items => ((iterator items).toText r).bind jsonString

def jsonItems (r : Resolver) (object : Reference → Outcome String) :
    List Value → List (Outcome String)
  | [] => []
  | v :: rest => v.toJson r object :: jsonItems r object rest

def jsonEntries (r : Resolver) (object : Reference → Outcome String) :
    List (Value × Value) → List (Outcome (String × String))
  | [] => []
  | (k, v) :: rest => jsonMember (k.jsonKey r) (v.toJson r object) :: jsonEntries r object rest

end

@[simp] theorem jsonItems_eq_map (r : Resolver) (object : Reference → Outcome String)
    (vs : List Value) : jsonItems r object vs = vs.map (toJson r object) := by
  induction vs with
  | nil => rfl
  | cons v rest ih => simp [jsonItems, ih]

end Value

end SelectBuilder
