import SelectBuilder.Failure
import SelectBuilder.Number.Digits
import SelectBuilder.Text.Case

/-!
# Loggers

Loggers are known by dotted names. Each has one parent: the nearest logger in existence among the
names that its own name extends by a dot, or else the root of all loggers. Names are read from the
right, and a dot directly to the left of one that was read is passed over.
-/
namespace SelectBuilder.Logging

def rootName : String := "querychain"

/-- The logger to which builders report. -/
def builderName : String := rootName ++ ".builder"

/-- A name is taken to lie under the root name unless it begins with it. -/
def qualify (name : String) : String :=
  if rootName.toList.isPrefixOf name.toList then name else rootName ++ "." ++ name

/-- The possible parents of a name that is spelled backwards, the nearest one first. -/
def parentsOfReversed : List Char → List (List Char)
  | [] => []
  | '.' :: c :: before => (c :: before).reverse :: parentsOfReversed before
  | _ :: rest => parentsOfReversed rest

def parents (name : String) : List String :=
  (parentsOfReversed name.toList.reverse).map String.ofList

/-- Whether the parents of a logger lead to the root name, in at most so many steps. -/
def leadsToRoot (existing : List String) : Nat → String → Bool
  | 0, name => name == rootName
  | n + 1, name =>
    name == rootName ||
      ((parents name).find? existing.contains).any (leadsToRoot existing n)

/-- Every parent has a shorter name. -/
def isBelowRoot (existing : List String) (name : String) : Bool :=
  leadsToRoot existing name.length name

def debugLevel : Nat := 10

def warningLevel : Nat := 30

/-- The table of level names also holds two names that are no levels: a format text and a
collection of styles. -/
def levelNamed (name : String) : Outcome Nat :=
  match Text.upper name with
  | "NOTSET" => .ok 0
  | "DEBUG" => .ok debugLevel
  | "INFO" => .ok 20
  | "WARN" => .ok warningLevel
  | "WARNING" => .ok warningLevel
  | "ERROR" => .ok 40
  | "CRITICAL" => .ok 50
  | "FATAL" => .ok 50
  | "BASIC_FORMAT" => .error .wrongValue
  | "_STYLES" => .error .wrongType
  | _ => .error .missingAttribute

def levelTitle : Int → String
  | 0 => "NOTSET"
  | 10 => "DEBUG"
  | 20 => "INFO"
  | 30 => "WARNING"
  | 40 => "ERROR"
  | 50 => "CRITICAL"
  | n => "Level " ++ Number.intText n

end SelectBuilder.Logging
