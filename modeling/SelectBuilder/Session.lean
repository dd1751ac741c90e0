import SelectBuilder.Logging.Delivery
import SelectBuilder.Store.Factory
import SelectBuilder.Value.Equality

/-!
# Sessions

A session is a store whose objects have names, together with the state of its loggers. It is driven
by steps, each of which yields an answer: a result or a failure, a view of the builder concerned,
and what was delivered to the receivers of log records. A step that fails binds no name. A step can
fail while its record is delivered; what it has not done by then is left undone.
-/
namespace SelectBuilder

inductive Handle where
  | builder (id : Nat)
  | config (id : Nat)
  /-- A factory is known by its configuration. -/
  | factory (config : Nat)
  deriving DecidableEq

/-- A configuration is named, or made from fields. -/
inductive ConfigSource where
  | shared (name : String)
  | fields (fields : List (String × Value))

/-- How the outside reader behaves. -/
inductive Reader where
  | accepting
  | failing (error : ReadError)

inductive Step where
  | new (name : String) (config : ConfigSource)
  | config (name : String) (fields : List (String × Value))
  | factory (name : String) (config : Option ConfigSource) (dialect : Value)
  | select (name : String) (factory : Option String) (columns : List Value) (dialect : Value)
  | call (on method : String) (args : List Value) (named : List (String × Value))
  | copy (on name : String)
  | build (on : String)
  | clauses (on : String)
  | quoted (on : String)
  | text (on : String)
  | read (on : String) (reader : Reader)
  | assign (on field : String) (value : Value)
  | settings (on : String)
  | equal (a b : Value)
  | correlate (id : Option String)
  | configure (level : String) (structured file extra : Bool)
  | event (logger : Option String) (template : String) (args : List Value)
      (fields : List (String × Value))

inductive Result where
  | done
  | text (s : String)
  | texts (items : List String)
  | flag (b : Bool)
  | rendered (sql : String) (dialect : Value) (quoted : Outcome String)
  | clauses (items : List (String × String × Outcome String))
  | parsed (sql : String) (dialect : Value)
  | settings (fields : List (String × Value))
  | identifier (id : Option String)
  | setup (level handlers : Nat)

/-- A result whose quoted form fails is no result. -/
def Result.checked : Result → Outcome Result
  | rendered sql dialect quoted => quoted.map fun q => rendered sql dialect (.ok q)
  | r => .ok r

structure Session where
  store : Store
  logging : Logging.State := {}
  names : List (String × Handle) := []

/-- What an answer shows of a builder. -/
structure View where
  sql : Outcome String
  stage : Stage
  clauseCount : Nat

structure Answer where
  outcome : Outcome Result
  view : Option View
  delivery : Logging.Delivery

namespace Config

/-- A configuration from named fields; the others have their defaults. -/
def ofFields (fields : List (String × Value)) : Outcome Config :=
  if fields.all fun f => ({} : Config).fields.any fun g => g.1 == f.1 then
    let get (name : String) (default : Value) := (fields.lookup name).getD default
    .ok ⟨get "dialect" .null, get "validate_pagination" (.bool true),
      get "strict_fragments" (.bool true)⟩
  else .error .wrongType

/-- Assigns a field; a name that is none of the fields leaves them as they are. -/
def assign (c : Config) (field : String) (v : Value) : Config :=
  match field with
  | "dialect" => { c with dialect := v }
  | "validate_pagination" => { c with checkPagination := v }
  | "strict_fragments" => { c with strict := v }
  | _ => c

/-- The field of the name gets the value, and the others keep theirs. -/
theorem fields_assign (c : Config) (field : String) (v : Value) :
    (c.assign field v).fields = c.fields.map fun f => if f.1 = field then (f.1, v) else f := by
  unfold assign
  split
  · rfl
  · rfl
  · rfl
  · next noDialect noPagination noStrict =>
    have apart {name : String} (h : field ≠ name) : ¬name = field := fun same => h same.symm
    simp [fields, apart noDialect, apart noPagination, apart noStrict]

end Config

namespace Session

/-- The configuration numbered zero belongs to the factory that has no name. -/
def initial : Session := { store := { configs := [{}] } }

def find (s : Session) (name : String) : Outcome Handle :=
  match s.names.lookup name with
  | some h => .ok h
  | none => .error .unknownObject

/-- A name inside the operands of a step has to be known as well. -/
def mention (s : Session) (name : String) : Outcome Handle :=
  match s.names.lookup name with
  | some h => .ok h
  | none => .error .missingKey

def bind (s : Session) (name : String) (h : Handle) : Session :=
  { s with names := (name, h) :: s.names }

def findBuilder (s : Session) (name : String) : Outcome Nat := do
  match ← s.find name with
  | .builder id => return id
  | _ => .error .missingAttribute

/-- The configuration of a named builder, configuration or factory. -/
def findConfig (s : Session) (name : String) : Outcome Nat := do
  match ← s.find name with
  | .builder id => return (← s.store.builder id).config
  | .config id => return id
  | .factory id => return id

/-- The value that stands for a named object. -/
def reference (s : Session) (name : String) : Outcome Value := do
  match ← s.mention name with
  | .builder id => return .reference (.builder id)
  | .config id => return .reference (.config id)
  | .factory _ => .error .missingKey

def resolveConfig (s : Session) : ConfigSource → Outcome (Store × Nat)
  | .shared name => do
    match ← s.mention name with
    | .config id => return (s.store, id)
    | _ => .error .wrongType
  | .fields fields => do return s.store.addConfig (← Config.ofFields fields)

/-- The state after a step, its result, and what is to be reported. -/
abbrev Effect := Session × Result × Option Store.Report

def quiet (s : Session) (r : Result) : Effect := (s, r, none)

def runNew (s : Session) (name : String) (config : ConfigSource) : Outcome Effect := do
  let (store, config) ← s.resolveConfig config
  let (store, id) := store.addBuilder { config := config }
  return quiet ({ s with store := store }.bind name (.builder id)) .done

/-- The configuration that a factory is given, if there is one. -/
def resolveGiven (s : Session) : Option ConfigSource → Outcome (Store × Option Nat)
  | some c => (s.resolveConfig c).map fun p => (p.1, some p.2)
  | none => .ok (s.store, none)

def runFactory (s : Session) (name : String) (config : Option ConfigSource) (dialect : Value) :
    Outcome Effect := do
  let (store, config) ← s.resolveGiven config
  let (store, id) := store.makeFactory config dialect
  return quiet ({ s with store := store }.bind name (.factory id)) .done

/-- The configuration of a factory, which may be the one that has no name. -/
def factoryConfig (s : Session) : Option String → Outcome Nat
  | none => .ok 0
  | some name => do
    match ← s.mention name with
    | .factory config => return config
    | .builder _ => .error .wrongType
    | .config _ => .error .missingAttribute

def runSelect (s : Session) (name : String) (factory : Option String) (columns : List Value)
    (dialect : Value) : Outcome Effect := do
  let config ← s.factoryConfig factory
  let (store, id, report) ← s.store.selectFrom config columns dialect
  return ({ s with store := store }.bind name (.builder id), .done, report)

def runBuild (s : Session) (on : String) : Outcome Effect := do
  let (rendered, report) ← s.store.build (← s.findBuilder on)
  return (s, .rendered rendered.sql rendered.dialect (rendered.quotedForm s.store.quoted),
    some report)

def runQuoted (s : Session) (on : String) : Outcome Effect := do
  match ← s.find on with
  | .builder id => return quiet s (.text (← s.store.quoted (.builder id)))
  | .config id => return quiet s (.text (← s.store.quoted (.config id)))
  | .factory _ => .error .missingAttribute

def runText (s : Session) (on : String) : Outcome Effect := do
  let sql ← s.store.render (← s.findBuilder on)
  return quiet s (.texts [sql, sql])

def runRead (s : Session) (on : String) (reader : Reader) : Outcome Effect := do
  let (sql, dialect) ← s.store.toExpression (← s.findBuilder on) fun sql dialect =>
    match reader with
    | .accepting => .ok (sql, dialect)
    | .failing e => .error e
  return quiet s (.parsed sql dialect)

/-- What can be asked of a builder without operands; a call does not show the answer. -/
def inquiries : List String := ["render", "to_sql", "build", "copy"]

/-- The parts of a builder that a call may name although they cannot be called. -/
def parts : List String :=
  ["config", "dialect", "condition_state", "clauses", "_clauses", "_select", "_from", "_where",
    "_having", "_condition", "_condition_state"]

/-- What an object has under a name, whether it can be called or not. -/
def members : Handle → List String
  | .builder _ => methods.map Prod.fst ++ inquiries ++ parts
  | .factory _ => "select" :: "config" :: Store.helperNames
  | .config _ => ({} : Config).fields.map Prod.fst

def checkMember (s : Session) (on method : String) : Outcome Unit := do
  if (members (← s.find on)).contains method then return () else .error .missingAttribute

def runInquiry (s : Session) (on method : String) : Outcome Effect := do
  let id ← s.findBuilder on
  match method with
  | "copy" => return quiet s .done
  | "build" => return (s, .done, (← s.runBuild on).2.2)
  | _ =>
    discard <| s.store.render id
    return quiet s .done

/-- A factory makes a builder or a literal, which the call does not show. -/
def runFactoryCall (s : Session) (config : Nat) (method : String) (args : List Value)
    (named : List (String × Value)) : Outcome Effect := do
  if method = "select" ∧ named.all (fun n => n.1 == "dialect") = true then
    let dialect := (named.lookup "dialect").getD .null
    let (store, _, report) ← s.store.selectFrom config args dialect
    return ({ s with store := store }, .done, report)
  else if Store.helperNames.contains method && named.isEmpty then
    discard <| s.store.helper method args
    return quiet s .done
  else .error .wrongType

def runCall (s : Session) (on method : String) (args : List Value)
    (named : List (String × Value)) : Outcome Effect := do
  s.checkMember on method
  match ← s.find on with
  | .builder id =>
    if inquiries.contains method && args.isEmpty && named.isEmpty then s.runInquiry on method
    else if (inquiries ++ parts).contains method then .error .wrongType
    else
      let (store, report) ← s.store.call id (← Call.ofMethod method args named)
      return ({ s with store := store }, .done, some report)
  | .factory config => s.runFactoryCall config method args named
  | .config _ => .error .wrongType

def runAssign (s : Session) (on field : String) (value : Value) : Outcome Effect := do
  let id ← s.findConfig on
  let c := (s.store.configs.getD id {}).assign field value
  return quiet { s with store := s.store.setConfig id c } (.settings c.fields)

/-- The session once the logger of an event is made, which is the first thing to be done for it. -/
def meet (s : Session) (logger : Option String) : Session :=
  { s with logging := (s.logging.logger logger).1 }

/-- The logger and the message of an event are no fields. Of two fields of one name the last one
counts. -/
def runEvent (s : Session) (logger : Option String) (template : String) (args : List Value)
    (fields : List (String × Value)) : Outcome Effect :=
  if fields.any fun f => f.1 == "logger" || f.1 == "message" then .error .wrongType
  else
    let name := (s.logging.logger logger).2
    let record : Logging.Record :=
      { logger := name, level := Logging.debugLevel, template, args,
        fields := Logging.setFields [] fields }
    .ok (s.meet logger, .text name, some ⟨record, s.store⟩)

/-- What a step does to the session, apart from the delivery of its record. -/
def effect (s : Session) : Step → Outcome Effect
  | .new name config => s.runNew name config
  | .config name fields => do
    let (store, id) := s.store.addConfig (← Config.ofFields fields)
    return quiet ({ s with store := store }.bind name (.config id)) .done
  | .factory name config dialect => s.runFactory name config dialect
  | .select name factory columns dialect => s.runSelect name factory columns dialect
  | .call on method args named => s.runCall on method args named
  | .copy on name => do
    let (store, id) := s.store.copy (← s.findBuilder on)
    return quiet ({ s with store := store }.bind name (.builder id)) .done
  | .build on => s.runBuild on
  | .clauses on => do
    return quiet s (.clauses (← s.store.clauseTexts (← s.findBuilder on)))
  | .quoted on => s.runQuoted on
  | .text on => s.runText on
  | .read on reader => s.runRead on reader
  | .assign on field value => s.runAssign on field value
  | .settings on => do
    return quiet s (.settings (s.store.configs.getD (← s.findConfig on) {}).fields)
  | .equal a b => do return quiet s (.flag (← s.store.same a b))
  | .correlate id => .ok (quiet { s with logging := { s.logging with correlation := id } }
      (.identifier id))
  | .configure level structured file extra => do
    let logging ← s.logging.configure level structured file extra
    let setup := logging.setup.getD ⟨0, false, false, false⟩
    return quiet { s with logging := logging } (.setup setup.level setup.handlerCount)
  | .event logger template args fields => s.runEvent logger template args fields

/-- The object that a step is about: the one that it names, else the one that it acts on. -/
def Step.subject? : Step → Option String
  | .new name _ => some name
  | .config name _ => some name
  | .factory name _ _ => some name
  | .select name _ _ _ => some name
  | .call on _ _ _ => some on
  | .copy _ name => some name
  | .build on => some on
  | .clauses on => some on
  | .quoted on => some on
  | .text on => some on
  | .read on _ => some on
  | .assign on _ _ => some on
  | .settings on => some on
  | _ => none

def view (s : Session) (subject : Option String) : Option View :=
  match subject.bind fun name => s.names.lookup name with
  | some (.builder id) =>
    s.store.builders[id]?.map fun b => ⟨s.store.render id, b.stage, b.clauses.length⟩
  | _ => none

/-- The answer to a step that was refused before it was made. -/
def refuse (s : Session) (subject : Option String) (e : Failure) : Answer :=
  ⟨.error e, s.view subject, {}⟩

/-- What is left of a step that fails: the logger of an event. -/
def afterFailure (s : Session) : Step → Session
  | .event logger _ _ _ => s.meet logger
  | _ => s

/-- Makes a step, with a view of a subject afterwards. -/
def stepWith (s : Session) (subject : Option String) (x : Step) : Session × Answer :=
  match s.effect x with
  | .error e => (s.afterFailure x, s.refuse subject e)
  | .ok (done, result, none) => (done, ⟨result.checked, done.view subject, {}⟩)
  | .ok (done, result, some report) =>
    let logging := done.logging.asked report.record.logger
    let delivery := logging.emit report.during report.record
    match delivery.failure with
    | some e =>
      let halted := { s with store := report.during, logging := logging }
      (halted, ⟨.error e, halted.view subject, delivery⟩)
    | none =>
      let after := { done with logging := logging }
      (after, ⟨result.checked, after.view subject, delivery⟩)

def step (s : Session) (x : Step) : Session × Answer := s.stepWith (Step.subject? x) x

end Session

end SelectBuilder
