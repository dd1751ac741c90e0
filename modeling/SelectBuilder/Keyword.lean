/-!
# Keywords

The closed vocabularies of a statement: join types, sort directions, connectives between
conditions and comparison operators. A word is recognised in its written form only; callers that
ignore case change it first.
-/
namespace SelectBuilder

inductive JoinType where
  | inner | left | right | full | cross | self | natural
  deriving DecidableEq

namespace JoinType

def all : List JoinType := [inner, left, right, full, cross, self, natural]

def word : JoinType → String
  | inner => "INNER"
  | left => "LEFT"
  | right => "RIGHT"
  | full => "FULL"
  | cross => "CROSS"
  | self => "SELF"
  | natural => "NATURAL"

def ofWord? (s : String) : Option JoinType := all.find? fun t => t.word == s

@[simp] theorem ofWord?_word (t : JoinType) : ofWord? t.word = some t := by cases t <;> rfl

end JoinType

inductive SortDirection where
  | ascending | descending
  deriving DecidableEq

namespace SortDirection

def all : List SortDirection := [ascending, descending]

def word : SortDirection → String
  | ascending => "ASC"
  | descending => "DESC"

def ofWord? (s : String) : Option SortDirection := all.find? fun d => d.word == s

@[simp] theorem ofWord?_word (d : SortDirection) : ofWord? d.word = some d := by cases d <;> rfl

end SortDirection

/-- The words that carry a condition on to a further column. -/
inductive Connective where
  | and | or | not
  deriving DecidableEq

def Connective.word : Connective → String
  | .and => "AND"
  | .or => "OR"
  | .not => "NOT"

def inequalityOperators : List String := ["!=", "<>"]

def comparisonOperators : List String := ["=", "<", "<=", ">", ">="] ++ inequalityOperators

end SelectBuilder
