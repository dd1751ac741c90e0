import SelectBuilder.Store.Operations

/-!
# Factories

A factory makes builders that all start from one configuration, each with a configuration of its
own. A factory keeps the configuration it was given and follows later changes of it, unless it was
given a dialect as well: then it has a changed copy.
-/
namespace SelectBuilder

namespace Store

/-- A new configuration with the dialect replaced if one is given. -/
def replaceDialect (s : Store) (config : Nat) (dialect : Value) : Store × Nat :=
  let c := s.configs.getD config {}
  s.addConfig (if dialect.isNull then c else { c with dialect := dialect })

/-- The configuration of a new factory. -/
def makeFactory (s : Store) (config : Option Nat) (dialect : Value) : Store × Nat :=
  let (s, id) := match config with
    | some id => (s, id)
    | none => s.addConfig {}
  if dialect.isNull then (s, id) else s.replaceDialect id dialect

/-- A new builder of a factory, with its SELECT clause if columns are given. -/
def selectFrom (s : Store) (factory : Nat) (columns : List Value) (dialect : Value) :
    Outcome (Store × Nat × Option Report) := do
  let (s, config) := s.replaceDialect factory dialect
  let (s, id) := s.addBuilder { config := config }
  if columns.isEmpty then return (s, id, none)
  else
    let (s, report) ← s.call id (.select columns)
    return (s, id, some report)

/-- The text of a statement, or another value, as the source of a subquery. -/
def subquery (s : Store) (source aliasName : Value) : Outcome Value := do
  return .table (← source.embedded s.resolver) aliasName (.bool true)

def helperNames : List String :=
  ["raw", "text", "number", "column", "table", "subquery", "asc", "desc"]

/-- The helpers that make literals and descriptors. -/
def helper (s : Store) (name : String) (args : List Value) : Outcome Value :=
  match name, args with
  | "raw", [v] => .ok (.raw v)
  | "text", [v] => .ok (.quoted v)
  | "number", [v] => .ok (.number v)
  | "column", [n] => .ok (.column n .null)
  | "column", [n, a] => .ok (.column n a)
  | "table", [t] => .ok (.table t .null (.bool false))
  | "table", [t, a] => .ok (.table t a (.bool false))
  | "subquery", [t, a] => s.subquery t a
  | "asc", [c] => .ok (.order c (.direction .ascending))
  | "desc", [c] => .ok (.order c (.direction .descending))
  | name, _ => .error (if helperNames.contains name then .wrongType else .missingAttribute)

end Store

end SelectBuilder
