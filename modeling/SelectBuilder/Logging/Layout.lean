import SelectBuilder.Logging.Logger
import SelectBuilder.Logging.Report
import SelectBuilder.Logging.Template
import SelectBuilder.Logging.Timestamp
import SelectBuilder.Store.Json

/-!
# Records and their layout

A record tells what happened to a statement. It is laid out as a plain line or as a JSON object on
one line; the fields of the record come after the common ones, and a field that has the name of a
common one takes its place.
-/
namespace SelectBuilder.Logging

structure Record where
  logger : String
  level : Int
  template : String
  args : List Value := []
  fields : List (String × Value) := []
  correlation : Option String := none
  problem : Option Value := none

namespace Record

/-- Without arguments the template is the message as it stands. -/
def message (r : Resolver) (x : Record) : Outcome String :=
  if x.args.isEmpty then .ok x.template else fill r x.template x.args

end Record

/-- Sets a field where it stands, or at the end. -/
def setField (name : String) (v : Value) : List (String × Value) → List (String × Value)
  | [] => [(name, v)]
  | f :: rest => if f.1 = name then (name, v) :: rest else f :: setField name v rest

def setFields (fields updates : List (String × Value)) : List (String × Value) :=
  updates.foldl (fun fs u => setField u.1 u.2 fs) fields

/-- The members of the JSON object of a record, given the text of its time and its message. -/
def Record.members (s : Store) (x : Record) (time message : String) :
    Outcome (List (String × Value)) := do
  let common : List (String × Value) :=
    [("timestamp", .text time), ("level", .text (levelTitle x.level)),
      ("logger", .text x.logger), ("message", .text message)]
  let tagged := match x.correlation with
    | some id => if id = "" then common else common ++ [("correlation_id", .text id)]
    | none => common
  let fields := setFields tagged x.fields
  match x.problem with
  | some p => return setField "exception" (.text (← report s p)) fields
  | none => return fields

def objectText (s : Store) (members : List (String × Value)) : Outcome String :=
  Value.jsonFields (members.map fun m => (m.1, s.json m.2))

def structuredLine (s : Store) (dateFormat : Option String) (x : Record) : Outcome String := do
  let time ← timestamp dateFormat
  let message ← x.message s.resolver
  objectText s (← x.members s time message)

def plainLine (s : Store) (x : Record) : Outcome String := do
  return (← timestamp none) ++ " - " ++ x.logger ++ " - " ++ levelTitle x.level ++ " - " ++
    (← x.message s.resolver)

end SelectBuilder.Logging
