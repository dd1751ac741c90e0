import SelectBuilder.ProblemClass
import SelectBuilder.Text.Quoted

/-!
# Failures

A request fails for a documented misuse of the statement, each with its code and message, or
because an operand is of a kind that the step at hand cannot treat.
-/
namespace SelectBuilder

inductive Misuse where
  | columnsMalformed
  | secondSelect
  | selectMissing (clause : String)
  | tableMissing
  | secondFrom
  | aliasMissing
  | conditionColumnMissing
  | secondWhere
  | havingMissing
  | secondHaving
  | conditionMissing (operator : String)
  | unknownComparison (operator : String)
  | unknownInequality (operator : String)
  | furtherColumnMissing (connective : String)
  | columnPending (connective condition : String)
  | patternMissing (keyword : String)
  | listEmpty (keyword : String)
  | joinMalformed (joinType : String)
  | groupingMalformed
  | orderingMissing
  | orderingMalformed
  | paginationMalformed (limit offset : String)
  | unionMalformed (keyword : String)
  | statementEmpty
  | statementUnreadable (reason : String)
  deriving DecidableEq

namespace Misuse

def kind : Misuse → ProblemClass
  | columnsMalformed => .coded .invalidColumnName
  | secondSelect => .coded .multipleSelect
  | selectMissing _ => .coded .noPreviousSelect
  | tableMissing => .coded .invalidTableName
  | secondFrom => .coded .multipleFrom
  | aliasMissing => .coded .invalidAlias
  | conditionColumnMissing => .coded .invalidColumnName
  | secondWhere => .coded .multipleWhere
  | havingMissing => .coded .invalidHaving
  | secondHaving => .coded .invalidHaving
  | conditionMissing _ => .coded .noPreviousWhere
  | unknownComparison _ => .coded .invalidComparison
  | unknownInequality _ => .coded .invalidInequality
  | furtherColumnMissing _ => .coded .invalidColumnName
  | columnPending _ _ => .coded .noPreviousWhere
  | patternMissing _ => .coded .invalidPattern
  | listEmpty _ => .coded .invalidInList
  | joinMalformed _ => .coded .invalidJoin
  | groupingMalformed => .coded .invalidGroupBy
  | orderingMissing => .coded .invalidOrderBy
  | orderingMalformed => .coded .invalidOrderColumn
  | paginationMalformed _ _ => .coded .invalidPagination
  | unionMalformed _ => .coded .invalidUnion
  | statementEmpty => .parsing
  | statementUnreadable _ => .parsing

def detail : Misuse → String
  | columnsMalformed => "Invalid SELECT statement columns."
  | secondSelect => ErrorCode.defaultMessage .multipleSelect
  | selectMissing clause => "No previous SELECT statement for " ++ clause ++ " statement."
  | tableMissing => ErrorCode.defaultMessage .invalidTableName
  | secondFrom => ErrorCode.defaultMessage .multipleFrom
  | aliasMissing => "FROM alias is mandatory when it's used with sub-query."
  | conditionColumnMissing => "Invalid WHERE statement column name."
  | secondWhere => "Statement already has a WHERE clause, use and_() or or_() to extend it."
  | havingMissing => "Invalid HAVING statement."
  | secondHaving => "Statement already has a HAVING clause, use and_() or or_() to extend it."
  | conditionMissing operator =>
    "Operator " ++ operator ++ " must have a previous WHERE statement."
  | unknownComparison operator => "Invalid comparison operator: " ++ operator
  | unknownInequality operator => "Invalid not equals to operator: " ++ operator
  | furtherColumnMissing connective => "Invalid " ++ connective ++ " statement column name."
  | columnPending connective condition =>
    "Operator " ++ connective ++ " needs a completed condition, " ++ Text.quoted condition ++
      " has a pending column."
  | patternMissing keyword => "Invalid " ++ keyword ++ " pattern."
  | listEmpty keyword => keyword ++ " list can't be empty."
  | joinMalformed joinType => "Invalid " ++ joinType ++ " JOIN info."
  | groupingMalformed => "Invalid GROUP BY columns."
  | orderingMissing => "Invalid ORDER BY columns."
  | orderingMalformed => "Invalid ORDER BY column name."
  | paginationMalformed limit offset =>
    "LIMIT and OFFSET must be non-negative integers, got limit=" ++ limit ++ ", offset=" ++
      offset ++ "."
  | unionMalformed keyword => "Invalid " ++ keyword ++ " query."
  | statementEmpty => "Cannot parse an empty statement."
  | statementUnreadable reason => "Failed to parse rendered statement: " ++ reason

def code? (m : Misuse) : Option ErrorCode := m.kind.code?

end Misuse

/-- The causes other than a misuse say only of what kind the obstacle is. -/
inductive Failure where
  | misuse (cause : Misuse)
  | wrongType
  | wrongValue
  | missingAttribute
  | missingKey
  | unboundedText
  | unimplemented
  | unreadableToken
  | overflow
  | invalidOperation
  /-- A sum of decimal numbers is too great. -/
  | decimalOverflow
  /-- A text that holds half a character cannot be encoded. -/
  | unencodable
  /-- A text is too long to be held. -/
  | outOfMemory
  /-- A fault describes a part of its text that is not there. -/
  | brokenText
  | unknownObject
  deriving DecidableEq

/-- The failures that are about an unfit value; a text that cannot be encoded is one. -/
def Failure.isOfValue : Failure → Bool
  | wrongValue => true
  | unencodable => true
  | _ => false

abbrev Outcome (α : Type) := Except Failure α

def misuse {α : Type} (cause : Misuse) : Outcome α := .error (.misuse cause)

end SelectBuilder
