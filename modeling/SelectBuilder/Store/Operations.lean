import SelectBuilder.Builder.Method
import SelectBuilder.Logging.Layout
import SelectBuilder.Store.Copy

/-!
# Operations on a store

Calls on the builders of a store, the finished statement, and its reading by an outside reader.
Each operation yields a new store or a failure. What is worth reporting comes back as a record,
with the store as it is when the record goes out: a call is reported before it is quite done.
-/
namespace SelectBuilder

/-- A finished statement: its text and the dialect it is meant for. -/
structure Rendered where
  sql : String
  dialect : Value

def Rendered.quotedForm (name : Reference → Outcome String) (x : Rendered) : Outcome String :=
  Value.fieldsText "RenderedQuery"
    [("sql", .ok (Text.quoted x.sql)), ("dialect", x.dialect.quotedForm name)]

/-- A record, and the store at the time when it goes out. -/
structure Store.Report where
  record : Logging.Record
  during : Store

/-- A reader of SQL may refuse a text, or fail on its first symbols. -/
inductive ReadError where
  | refused (reason : String)
  | symbols (reason : String)
  deriving DecidableEq

namespace Builder

/-- The record of a change, given the builder before it and when it is reported. -/
def recordOf (before during : Builder) : Change → Logging.Record
  | .append c =>
    { logger := Logging.builderName
      level := Logging.debugLevel
      template := "Appended %s clause"
      args := [.text c.keyword]
      fields := [("clause", .text c.keyword), ("clause_count", .int during.clauses.length)] }
  | .extend operator _ _ =>
    let keyword := (before.current?.map Clause.keyword).getD ""
    { logger := Logging.builderName
      level := Logging.debugLevel
      template := "Extended %s clause with %s"
      args := [.text keyword, .text operator]
      fields := [("clause", .text keyword)] }

end Builder

namespace Store

def builder (s : Store) (id : Nat) : Outcome Builder :=
  match s.builders[id]? with
  | some b => .ok b
  | none => .error .unknownObject

def contextOf (s : Store) (b : Builder) : Context :=
  ⟨s.resolver, (s.configOf b).checkPagination.isTrue⟩

/-- Checks a call and makes its change to the builder. -/
def call (s : Store) (id : Nat) (c : Call) : Outcome (Store × Report) := do
  let b ← s.builder id
  let change ← b.plan (s.contextOf b) c
  let during := b.enter (s.configOf b).strict.isTrue change
  return (s.setBuilder id (during.settle change),
    ⟨b.recordOf during change, s.setBuilder id during⟩)

def build (s : Store) (id : Nat) : Outcome (Rendered × Report) := do
  let b ← s.builder id
  let sql ← s.render id
  let dialect := (s.configOf b).dialect
  let record : Logging.Record :=
    { logger := Logging.builderName
      level := Logging.debugLevel
      template := "Rendered statement"
      fields := [("sql", .text sql), ("dialect", dialect)] }
  return (⟨sql, dialect⟩, ⟨record, s⟩)

/-- Hands the text and the dialect to a reader. An empty text is not handed over. -/
def toExpression {α : Type} (s : Store) (id : Nat) (read : String → Value → Except ReadError α) :
    Outcome α := do
  let b ← s.builder id
  let sql ← s.render id
  if sql = "" then misuse .statementEmpty
  else match read sql (s.configOf b).dialect with
    | .ok expression => return expression
    | .error (.refused reason) => misuse (.statementUnreadable reason)
    | .error (.symbols _) => .error .unreadableToken

/-- The clauses of a builder with their kind, keyword and text. -/
def clauseTexts (s : Store) (id : Nat) : Outcome (List (String × String × Outcome String)) := do
  let b ← s.builder id
  return b.clauses.map fun c => (c.kindName, c.keyword, c.render s.resolver)

end Store

end SelectBuilder
