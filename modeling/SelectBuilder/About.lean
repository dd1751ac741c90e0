import SelectBuilder.Builder.Call
import SelectBuilder.Logging.Logger

/-!
# About this library

Its name and version, the names that it offers to callers, and its vocabularies in one place.
-/
namespace SelectBuilder.About

def project : String := "querychain"

def version : String := "0.1.0"

def publicNames : List String :=
  ["BuilderConfig", "BuilderErrorCode", "ColumnSpec", "ConditionState", "JoinType", "Number",
    "OrderSpec", "QueryBuilder", "QueryChainError", "RawExpression", "RenderedQuery",
    "SQLBuilderError", "SQLFactory", "SQLParsingError", "Select", "SortDirection", "TableRef",
    "Text", "__version__", "builder", "configure_logging", "exceptions", "get_logger", "sql",
    "typing", "utils"]

def sorted (words : List String) : List String := words.mergeSort fun a b => decide (a ≤ b)

def comparisons : List String := sorted comparisonOperators

def inequalities : List String := sorted inequalityOperators

def joinWords : List String := JoinType.all.map JoinType.word

def directionWords : List String := SortDirection.all.map SortDirection.word

end SelectBuilder.About
