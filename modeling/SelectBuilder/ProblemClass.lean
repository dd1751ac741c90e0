import SelectBuilder.ErrorCode

/-!
# Classes of problems

The classes that a problem can have: a base class, one for statements that cannot be read, one for
statements put together wrongly, and under the last one a class for every error code.
-/
namespace SelectBuilder

inductive ProblemClass where
  | base
  | parsing
  | building
  | coded (code : ErrorCode)
  deriving DecidableEq

namespace ProblemClass

def name : ProblemClass → String
  | base => "QueryChainError"
  | parsing => "SQLParsingError"
  | building => "SQLBuilderError"
  | coded code => code.errorName

def ofName? (s : String) : Option ProblemClass :=
  match [base, parsing, building].find? fun c => c.name == s with
  | some c => some c
  | none => (ErrorCode.ofErrorName? s).map coded

/-- The class and those it specialises, the most special one first. -/
def ancestry : ProblemClass → List ProblemClass
  | base => [base]
  | parsing => [parsing, base]
  | building => [building, base]
  | coded code => [coded code, building, base]

def code? : ProblemClass → Option ErrorCode
  | coded code => some code
  | _ => none

/-- The base class has no message of its own. -/
def defaultMessage : ProblemClass → String
  | base => ""
  | parsing => "Issues parsing SQL statement."
  | building => "Issues building SQL statement."
  | coded code => code.defaultMessage

end ProblemClass

end SelectBuilder
