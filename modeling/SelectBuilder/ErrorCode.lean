/-!
# Error codes

The stable numbers of the ways in which a statement can be put together wrongly, with the names
under which callers know them and the message used when no other is given.
-/
namespace SelectBuilder

inductive ErrorCode where
  | invalidColumnName
  | noPreviousSelect
  | invalidTableName
  | invalidAlias
  | noPreviousWhere
  | multipleFrom
  | invalidComparison
  | invalidInequality
  | invalidPattern
  | invalidJoin
  | invalidUnion
  | invalidGroupBy
  | invalidOrderBy
  | invalidOrderColumn
  | invalidHaving
  | multipleSelect
  | multipleWhere
  | invalidInList
  | invalidPagination
  deriving DecidableEq

namespace ErrorCode

def all : List ErrorCode :=
  [invalidColumnName, noPreviousSelect, invalidTableName, invalidAlias, noPreviousWhere,
    multipleFrom, invalidComparison, invalidInequality, invalidPattern, invalidJoin, invalidUnion,
    invalidGroupBy, invalidOrderBy, invalidOrderColumn, invalidHaving, multipleSelect,
    multipleWhere, invalidInList, invalidPagination]

/-- The numbers run on from 1000; 1006 is not in use. -/
def number : ErrorCode → Nat
  | invalidColumnName => 1000
  | noPreviousSelect => 1001
  | invalidTableName => 1002
  | invalidAlias => 1003
  | noPreviousWhere => 1004
  | multipleFrom => 1005
  | invalidComparison => 1007
  | invalidInequality => 1008
  | invalidPattern => 1009
  | invalidJoin => 1010
  | invalidUnion => 1011
  | invalidGroupBy => 1012
  | invalidOrderBy => 1013
  | invalidOrderColumn => 1014
  | invalidHaving => 1015
  | multipleSelect => 1016
  | multipleWhere => 1017
  | invalidInList => 1018
  | invalidPagination => 1019

def name : ErrorCode → String
  | invalidColumnName => "INVALID_COLUMN_NAME"
  | noPreviousSelect => "NO_PREVIOUS_SELECT_STATEMENT"
  | invalidTableName => "INVALID_TABLE_NAME"
  | invalidAlias => "INVALID_ALIAS"
  | noPreviousWhere => "NO_PREVIOUS_WHERE_STATEMENT"
  | multipleFrom => "MULTIPLE_FROM_STATEMENT"
  | invalidComparison => "INVALID_COMPARISON_OPERATOR"
  | invalidInequality => "INVALID_NOT_EQUALS_TO_OPERATOR"
  | invalidPattern => "INVALID_PATTERN"
  | invalidJoin => "INVALID_JOIN_INFO"
  | invalidUnion => "INVALID_UNION_QUERY"
  | invalidGroupBy => "INVALID_GROUP_BY_COLUMNS"
  | invalidOrderBy => "INVALID_ORDER_BY_COLUMNS"
  | invalidOrderColumn => "INVALID_ORDER_COLUMN_NAME"
  | invalidHaving => "INVALID_HAVING_STATEMENT"
  | multipleSelect => "MULTIPLE_SELECT_STATEMENT"
  | multipleWhere => "MULTIPLE_WHERE_STATEMENT"
  | invalidInList => "INVALID_IN_LIST"
  | invalidPagination => "INVALID_PAGINATION"

/-- The name in lower case. -/
def label (c : ErrorCode) : String := String.ofList (c.name.toList.map Char.toLower)

def errorName : ErrorCode → String
  | invalidColumnName => "InvalidColumnNameError"
  | noPreviousSelect => "NoPreviousSelectStatementError"
  | invalidTableName => "InvalidTableNameError"
  | invalidAlias => "InvalidAliasError"
  | noPreviousWhere => "NoPreviousWhereStatementError"
  | multipleFrom => "MultipleFromStatementError"
  | invalidComparison => "InvalidComparisonOperatorError"
  | invalidInequality => "InvalidNotEqualsToOperatorError"
  | invalidPattern => "InvalidPatternError"
  | invalidJoin => "InvalidJoinInfoError"
  | invalidUnion => "InvalidUnionQueryError"
  | invalidGroupBy => "InvalidGroupByColumnsError"
  | invalidOrderBy => "InvalidOrderByColumnsError"
  | invalidOrderColumn => "InvalidOrderColumnNameError"
  | invalidHaving => "InvalidHavingStatementError"
  | multipleSelect => "MultipleSelectStatementError"
  | multipleWhere => "MultipleWhereStatementError"
  | invalidInList => "InvalidInListError"
  | invalidPagination => "InvalidPaginationError"

def defaultMessage : ErrorCode → String
  | invalidColumnName => "Invalid column name."
  | noPreviousSelect => "No previous SELECT statement."
  | invalidTableName => "Table name can't be empty."
  | invalidAlias => "Invalid alias."
  | noPreviousWhere => "No previous WHERE statement."
  | multipleFrom => "SELECT statement can't have multiple FROM statements."
  | invalidComparison => "Invalid comparison operator."
  | invalidInequality => "Invalid not equals to operator."
  | invalidPattern => "Invalid LIKE pattern."
  | invalidJoin => "Invalid JOIN info."
  | invalidUnion => "Invalid UNION query."
  | invalidGroupBy => "Invalid GROUP BY columns."
  | invalidOrderBy => "Invalid ORDER BY columns."
  | invalidOrderColumn => "Invalid ORDER BY column name."
  | invalidHaving => "Invalid HAVING statement."
  | multipleSelect => "Statement already has a SELECT clause."
  | multipleWhere => "Statement already has a WHERE clause."
  | invalidInList => "IN list can't be empty."
  | invalidPagination => "LIMIT and OFFSET must be non-negative integers."

def ofNumber? (n : Int) : Option ErrorCode := all.find? fun c => (c.number : Int) == n

def ofName? (s : String) : Option ErrorCode := all.find? fun c => c.name == s

def ofErrorName? (s : String) : Option ErrorCode := all.find? fun c => c.errorName == s

@[simp] theorem ofNumber?_number (c : ErrorCode) : ofNumber? c.number = some c := by
  cases c <;> rfl

@[simp] theorem ofName?_name (c : ErrorCode) : ofName? c.name = some c := by
  cases c <;> rfl

end ErrorCode

end SelectBuilder
