import SelectBuilder.Keyword
import SelectBuilder.Number.Decimal
import SelectBuilder.Problem

/-!
# Values

The operands of a statement. Callers pass plain data, literals and descriptors of columns, tables
and orderings, nested as they like, and references to statements and settings that live in a
store.
-/
namespace SelectBuilder

inductive Reference where
  | builder (id : Nat)
  | config (id : Nat)
  deriving DecidableEq

def Reference.builder? : Reference → Option Nat
  | .builder id => some id
  | .config _ => none

def Reference.config? : Reference → Option Nat
  | .builder _ => none
  | .config id => some id

inductive Value where
  | null
  | bool (b : Bool)
  | int (i : Int)
  | double (x : Number.Double)
  | decimal (d : Number.Decimal)
  | text (s : String)
  | joinType (t : JoinType)
  | direction (d : SortDirection)
  | code (c : ErrorCode)
  | list (items : List Value)
  | tuple (items : List Value)
  | set (items : List Value)
  | dict (entries : List (Value × Value))
  | bytes (content : List UInt8)
  | path (location : String)
  | iterator (items : List Value)
  | number (value : Value)
  | quoted (value : Value)
  | raw (sql : Value)
  | column (name aliasName : Value)
  | table (source aliasName isSubquery : Value)
  | order (column direction : Value)
  | problem (p : Problem)
  | fault (name : String) (args : List Value)
  | reference (r : Reference)

namespace Value

instance : Inhabited Value := ⟨null⟩

def isNull : Value → Bool
  | null => true
  | _ => false

/-- Nothing, zero and every empty text or collection count as false. -/
def isTrue : Value → Bool
  | null => false
  | bool b => b
  | int i => i != 0
  | double x => !x.isZero
  | decimal d => !d.isZero
  | text s => s != ""
  | list items => !items.isEmpty
  | tuple items => !items.isEmpty
  | set items => !items.isEmpty
  | dict entries => !entries.isEmpty
  | bytes content => !content.isEmpty
  | _ => true

/-- The characters of a value that is text; keywords are text too. -/
def content? : Value → Option String
  | text s => some s
  | joinType t => some t.word
  | direction d => some d.word
  | _ => none

def isText (v : Value) : Bool := v.content?.isSome

/-- Text that is not empty. -/
def isName (v : Value) : Bool := v.isText && v.isTrue

/-- The value of a whole number that is not a truth value; codes are numbers too. -/
def integer? : Value → Option Int
  | int i => some i
  | code c => some c.number
  | _ => none

/-- The items of a list or tuple. -/
def sequence? : Value → Option (List Value)
  | list items => some items
  | tuple items => some items
  | _ => none

/-- Everything that a value yields item by item. -/
def items? : Value → Option (List Value)
  | list items => some items
  | tuple items => some items
  | set items => some items
  | iterator items => some items
  | dict entries => some (entries.map Prod.fst)
  | bytes content => some (content.map fun b => int b.toNat)
  | v => v.content?.map fun s => (Text.codePoints s).map fun n => text (Text.ofCodePoints [n])

/-- What stands in place of an absent operand. -/
def orNull (v : Value) : Value := if v.isTrue then v else null

/-- The name of the kind of a value. -/
def kindName : Value → String
  | null => "NoneType"
  | bool _ => "bool"
  | int _ => "int"
  | double _ => "float"
  | decimal _ => "Decimal"
  | text _ => "str"
  | joinType _ => "JoinType"
  | direction _ => "SortDirection"
  | code _ => "BuilderErrorCode"
  | list _ => "list"
  | tuple _ => "tuple"
  | set _ => "set"
  | dict _ => "dict"
  | bytes _ => "bytes"
  | path _ => "PurePosixPath"
  | iterator _ => "list_iterator"
  | number _ => "Number"
  | quoted _ => "Text"
  | raw _ => "RawExpression"
  | column _ _ => "ColumnSpec"
  | table _ _ _ => "TableRef"
  | order _ _ => "OrderSpec"
  | problem p => p.title
  | fault name _ => name
  | reference (.builder _) => "Select"
  | reference (.config _) => "BuilderConfig"

@[simp] theorem isTrue_text (s : String) : (text s).isTrue = (s != "") := rfl

@[simp] theorem content?_text (s : String) : (text s).content? = some s := rfl

@[simp] theorem isName_text (s : String) : (text s).isName = (s != "") := by
  simp [isName, isText]

end Value

end SelectBuilder
