import SelectBuilder.Logging.Layout

/-!
# Delivery of records

A setup says which records are delivered and to whom: always to the console, and on demand to a
file and to one further receiver. A record is delivered if its logger lies below the root name and
the level in force lets it pass. Delivery reads the store and leaves it alone.
-/
namespace SelectBuilder.Logging

structure Setup where
  level : Nat
  structured : Bool
  file : Bool
  extra : Bool
  deriving DecidableEq

def Setup.handlerCount (s : Setup) : Nat :=
  1 + (if s.file then 1 else 0) + (if s.extra then 1 else 0)

/-- Those who may be told of records. -/
inductive Receiver where
  | console
  | file
  | extra
  deriving DecidableEq

/-- The receivers of a setup, in the order in which they are told. -/
def Setup.receivers (s : Setup) : List Receiver :=
  .console :: (if s.file then [.file] else []) ++ (if s.extra then [.extra] else [])

/-- A receiver as it is installed at the root name. Every setup brings receivers of its own, which
bear its number. -/
structure Handler where
  setup : Nat
  receiver : Receiver
  deriving DecidableEq

/-- The loggers made so far, those among them that stamp records with the correlation id, the id in
force, and the setup once there is one, with the number of setups so far. Until the first one no
receiver is installed and records propagate beyond the root name. A logger that has once let a
record go stays silent until the next setup, even if it comes to lie below the root name. -/
structure State where
  setup : Option Setup := none
  setups : Nat := 0
  handlers : List Handler := []
  propagates : Bool := true
  correlation : Option String := none
  loggers : List String := [rootName, builderName]
  stamping : List String := [builderName]
  silent : List String := []
  deriving DecidableEq

/-- What the further receiver is told of a record. -/
structure Notice where
  name : String
  level : String
  message : String
  correlation : Option String
  fields : List String
  deriving DecidableEq

structure Delivery where
  console : List String := []
  file : List String := []
  extra : List Notice := []
  failure : Option Failure := none
  deriving DecidableEq

namespace Delivery

def append (a b : Delivery) : Delivery where
  console := a.console ++ b.console
  file := a.file ++ b.file
  extra := a.extra ++ b.extra
  failure := a.failure.or b.failure

instance : Append Delivery := ⟨append⟩

end Delivery

namespace State

/-- The logger of a name, made if need be; only a logger asked for by name stamps records. -/
def logger (l : State) (name : Option String) : State × String :=
  match name with
  | none => (l, rootName)
  | some n =>
    let q := qualify n
    ({ l with loggers := if l.loggers.contains q then l.loggers else l.loggers ++ [q]
              stamping := if l.stamping.contains q then l.stamping else l.stamping ++ [q] }, q)

/-- The level that counts for a logger. Level zero leaves the decision to the root of all loggers,
as does a logger outside. -/
def levelOf (l : State) (name : String) : Nat :=
  match l.setup with
  | some s =>
    if isBelowRoot l.loggers name && s.level != 0 then s.level else warningLevel
  | none => warningLevel

def reports (l : State) (name : String) : Bool :=
  !l.silent.contains name && decide (l.levelOf name ≤ debugLevel)

/-- The state after a debugging record came to a logger. -/
def asked (l : State) (name : String) : State :=
  if l.reports name || l.silent.contains name then l else { l with silent := l.silent ++ [name] }

/-- A line that cannot be laid out is lost, unless its text has no end. -/
def write (line : Outcome String) (put : String → Delivery) : Delivery :=
  match line with
  | .ok text => put text
  | .error .unboundedText => { failure := some .unboundedText }
  | .error _ => {}

def notice (s : Store) (x : Record) : Delivery :=
  match x.message s.resolver with
  | .ok message =>
    { extra := [⟨x.logger, levelTitle x.level, message, x.correlation,
        (x.fields.map Prod.fst).mergeSort Text.precedes⟩] }
  | .error e => { failure := some e }

/-- Goes on to a further receiver unless the delivery has failed. -/
def thenTo (d : Delivery) (wanted : Bool) (next : Delivery) : Delivery :=
  if wanted && d.failure.isNone then d ++ next else d

def deliver (setup : Setup) (s : Store) (x : Record) : Delivery :=
  let line := structuredLine s none x
  let console := write (if setup.structured then line else plainLine s x)
    fun t => { console := [t] }
  let filed := thenTo console setup.file (write line fun t => { file := [t] })
  thenTo filed setup.extra (notice s x)

/-- Emits a debugging record on a logger. -/
def emit (l : State) (s : Store) (x : Record) : Delivery :=
  match l.setup with
  | some setup =>
    if l.reports x.logger then deliver setup s { x with correlation := l.correlation } else {}
  | none => {}

/-- Replaces the setup and its receivers. An unknown level leaves the former ones in force. -/
def configure (l : State) (level : String) (structured file extra : Bool) : Outcome State := do
  let n ← levelNamed level
  let setup : Setup := ⟨n, structured, file, extra⟩
  return { l with
    setup := some setup
    setups := l.setups + 1
    handlers := setup.receivers.map (Handler.mk (l.setups + 1))
    propagates := false
    silent := [] }

end State

end SelectBuilder.Logging
