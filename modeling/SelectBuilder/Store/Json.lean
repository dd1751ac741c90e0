import SelectBuilder.Store.Basic
import SelectBuilder.Value.Json

/-!
# Objects of a store as JSON

A configuration is an object of its fields, a builder one of its configuration, its clauses and its
cursor. Objects are written inside one another as they stand, so that one which contains itself has
no JSON.
-/
namespace SelectBuilder

/-- A clause is an object of its parts. -/
def Clause.json (r : Resolver) (object : Reference → Outcome String) (c : Clause) :
    Outcome String :=
  Value.jsonFields (c.fields.map fun f => (f.1, f.2.toJson r object))

namespace Builder

/-- The clauses that occur at most once and are there, under their names. -/
def slotMembers (b : Builder) : List (String × Clause) :=
  [("_select", b.slots.select), ("_from", b.slots.source), ("_where", b.slots.rows),
    ("_having", b.slots.groups)].filterMap fun s =>
      (s.2.bind fun place => b.clauses[place]?).map fun c => (s.1, c)

/-- Clauses that have a place of their own are written once more there. The cursor is written once
it was moved. -/
def json (r : Resolver) (object : Reference → Outcome String) (b : Builder) : Outcome String :=
  let write (c : Clause) : Outcome String := c.json r object
  let cursor : List (String × Outcome String) :=
    if b.cursorMoved then
      [("_condition", (b.current?.map write).getD (.ok "null")),
        ("_condition_state", Value.jsonString b.stage.word)]
    else []
  Value.jsonFields
    ([("config", object (.config b.config)),
      ("_clauses", Value.jsonArray (b.clauses.map write))] ++
      (b.slotMembers.map fun s => (s.1, write s.2)) ++ cursor)

end Builder

namespace Store

/-- The JSON of an object, with the objects that may still be entered. -/
def jsonWithin (s : Store) (pending : List Reference) (r : Reference) : Outcome String :=
  if _h : r ∈ pending then
    match r with
    | .builder id =>
      match s.builders[id]? with
      | some b => b.json s.resolver (s.jsonWithin (pending.erase r))
      | none => .error .unboundedText
    | .config id =>
      match s.configs[id]? with
      | some c =>
        Value.jsonFields
          (c.fields.map fun f => (f.1, f.2.toJson s.resolver (s.jsonWithin (pending.erase r))))
      | none => .error .unboundedText
  else .error .unboundedText
termination_by pending.length
decreasing_by
  all_goals exact length_erase_lt (by assumption)

def json (s : Store) (v : Value) : Outcome String :=
  v.toJson s.resolver (s.jsonWithin s.references)

end Store

end SelectBuilder
