import SelectBuilder.Text.Path
import SelectBuilder.Text.Quoted
import SelectBuilder.Value.Numeric
import SelectBuilder.Value.Shape

/-!
# Faults

A fault is an error that is no problem of a statement: it has a class, known by its name, and the
operands it was made from. Some families of classes ask for operands of certain kinds, and word
the text of a fault in their own way from the texts and quoted forms of its operands; any other
fault reads as its one operand, or as the tuple of them.
-/
namespace SelectBuilder

inductive FaultFamily where
  | plain
  /-- A missing key is shown in its quoted form. -/
  | missingKey
  /-- Errors of the system have a number, a reason and up to two files. -/
  | system
  /-- Errors in a source text may say where it goes wrong. -/
  | located
  | encoding
  | decoding
  | recoding
  /-- A group holds further errors. -/
  | group
  deriving DecidableEq

namespace Fault

/-! ## Classes -/

def plainNames : List String :=
  ["ArithmeticError", "AssertionError", "AttributeError", "BaseException", "BufferError",
    "BytesWarning", "DeprecationWarning", "EOFError", "EncodingWarning", "Exception",
    "FloatingPointError", "FutureWarning", "GeneratorExit", "ImportError", "ImportWarning",
    "IndexError", "KeyboardInterrupt", "LookupError", "MemoryError", "ModuleNotFoundError",
    "NameError", "NotImplementedError", "OverflowError", "PendingDeprecationWarning",
    "RecursionError", "ReferenceError", "ResourceWarning", "RuntimeError", "RuntimeWarning",
    "StopAsyncIteration", "StopIteration", "SyntaxWarning", "SystemError", "SystemExit",
    "TypeError", "UnboundLocalError", "UnicodeError", "UnicodeWarning", "UserWarning",
    "ValueError", "Warning", "ZeroDivisionError"]

def systemName : String := "OSError"

def blockingName : String := "BlockingIOError"

def systemNames : List String :=
  [systemName, blockingName, "BrokenPipeError", "ChildProcessError", "ConnectionAbortedError",
    "ConnectionError", "ConnectionRefusedError", "ConnectionResetError", "FileExistsError",
    "FileNotFoundError", "InterruptedError", "IsADirectoryError", "NotADirectoryError",
    "PermissionError", "ProcessLookupError", "TimeoutError"]

def locatedNames : List String := ["SyntaxError", "IndentationError", "TabError"]

def groupName : String := "ExceptionGroup"

def graveGroupName : String := "BaseExceptionGroup"

/-- Grave errors are not met in the ordinary course of a program. -/
def graveNames : List String :=
  ["BaseException", graveGroupName, "GeneratorExit", "KeyboardInterrupt", "SystemExit"]

def family? (name : String) : Option FaultFamily :=
  if plainNames.contains name then some .plain
  else if systemNames.contains name then some .system
  else if locatedNames.contains name then some .located
  else match name with
    | "KeyError" => some .missingKey
    | "UnicodeEncodeError" => some .encoding
    | "UnicodeDecodeError" => some .decoding
    | "UnicodeTranslateError" => some .recoding
    | "ExceptionGroup" => some .group
    | "BaseExceptionGroup" => some .group
    | _ => none

/-- Two older names of the class of system errors. -/
def currentName : String → String
  | "IOError" => systemName
  | "EnvironmentError" => systemName
  | name => name

/-! ## Errors of the system -/

/-- The error numbers that have a class of their own. -/
def numberedClasses : List (Int × String) :=
  [(1, "PermissionError"), (2, "FileNotFoundError"), (3, "ProcessLookupError"),
    (4, "InterruptedError"), (10, "ChildProcessError"), (11, blockingName),
    (13, "PermissionError"), (17, "FileExistsError"), (20, "NotADirectoryError"),
    (21, "IsADirectoryError"), (32, "BrokenPipeError"), (103, "ConnectionAbortedError"),
    (104, "ConnectionResetError"), (108, "BrokenPipeError"), (110, "TimeoutError"),
    (111, "ConnectionRefusedError"), (114, blockingName), (115, blockingName)]

/-- The class of an error number, which has to be a whole number. -/
def numberedClass (number : Value) : String :=
  (number.index?.bind fun i => numberedClasses.lookup i).getD systemName

def isDetailed (args : List Value) : Bool := decide (2 ≤ args.length ∧ args.length ≤ 5)

/-- The files that an error of the system is about, the first of which may also be a count. -/
def operandFile? (place : Nat) (args : List Value) : Option Value :=
  if isDetailed args then args[place]?.bind fun v => if v.isNull then none else some v else none

def isCount (name : String) (v : Value) : Bool := name == blockingName && v.numeric?.isSome

def file? (name : String) (args : List Value) : Option Value :=
  (operandFile? 2 args).bind fun v => if isCount name v then none else some v

def secondFile? (name : String) (args : List Value) : Option Value :=
  (file? name args).bind fun _ => operandFile? 4 args

def withinWord (i : Int) : Bool := decide (-(Nat.pow 2 63 : Int) ≤ i ∧ i < Nat.pow 2 63)

def checkCount (name : String) (args : List Value) : Outcome Unit :=
  match (operandFile? 2 args).filter (isCount name) with
  | none => .ok ()
  | some v => do
    if withinWord (← v.index) then return () else .error .wrongValue

/-- How many of the operands are shown: files are not. -/
def shownCount (name : String) (args : List Value) : Nat :=
  if (family? name == some .system) && (file? name args).isSome then 2 else args.length

/-! ## Errors in a source text -/

/-- Where a source text goes wrong: file, line, column, the text itself, last line and last
column. -/
def location? : List Value → Option (List Value)
  | [_, details] => details.items?
  | _ => none

def checkLocation : List Value → Outcome Unit
  | [_, details] =>
    match details.items? with
    | some items =>
      if items.length = 4 ∨ items.length = 6 then .ok () else .error .wrongType
    | none => .error .wrongType
  | _ => .ok ()

/-- One of the details of a place, if it is known. -/
def detail? (place : Nat) (args : List Value) : Option Value :=
  ((location? args).bind fun items => items[place]?).bind fun v =>
    if v.isNull then none else some v

/-! ## Errors of character encodings -/

def checkText (v : Value) : Outcome Unit := if v.isText then .ok () else .error .wrongType

def checkBytes : Value → Outcome Unit
  | .bytes _ => .ok ()
  | _ => .error .wrongType

def checkWord (v : Value) : Outcome Unit := do
  if withinWord (← v.index) then return () else .error .overflow

def checkCoding (family : FaultFamily) (args : List Value) : Outcome Unit :=
  match family, args with
  | .encoding, [encoding, object, first, last, reason] => do
    checkText encoding; checkText object; checkWord first; checkWord last; checkText reason
  | .decoding, [encoding, object, first, last, reason] => do
    checkText encoding; checkWord first; checkWord last; checkText reason; checkBytes object
  | .recoding, [object, first, last, reason] => do
    checkText object; checkWord first; checkWord last; checkText reason
  | _, _ => .error .wrongType

/-! ## Groups -/

def isError : Value → Bool
  | .problem _ => true
  | .fault _ _ => true
  | _ => false

def isGrave : Value → Bool
  | .fault name _ => graveNames.contains name
  | _ => false

def members : List Value → List Value
  | [_, .list items] => items
  | [_, .tuple items] => items
  | _ => []

/-- A group with a title and members, one at least. Only a grave group may have grave members, and
only with such members it is one. -/
def makeGroup (name : String) (args : List Value) : Outcome Value :=
  match args with
  | [title, listed] => do
    checkText title
    let items ← match listed with
      | .list items => pure items
      | .tuple items => pure items
      | .bytes content => pure (content.map fun b => .int b.toNat)
      | v => if v.isText then pure (v.items?.getD []) else .error .wrongType
    if items.isEmpty || !items.all isError then .error .wrongValue
    else if items.any isGrave then
      if name = groupName then .error .wrongType else return .fault graveGroupName args
    else return .fault groupName args
  | _ => .error .wrongType

/-! ## Making a fault -/

/-- An error of the system made under the general name gets the class of its number. -/
def makeSystem (name : String) (args : List Value) : Outcome Value := do
  let name := if name = systemName ∧ isDetailed args = true then
      numberedClass (args.headD .null)
    else name
  checkCount name args
  return .fault name args

def make (name : String) (args : List Value) : Outcome Value := do
  let name := currentName name
  match family? name with
  | none => .error .missingAttribute
  | some .plain => return .fault name args
  | some .missingKey => return .fault name args
  | some .system => makeSystem name args
  | some .located => do
    checkLocation args
    return .fault name args
  | some .group => makeGroup name args
  | some coding => do
    checkCoding coding args
    return .fault name args

/-! ## Wording

The texts and quoted forms of the operands are given; either of an operand may be impossible. -/

def plainText (texts forms : List (Outcome String)) : Outcome String :=
  match texts with
  | [] => .ok ""
  | [text] => text
  | _ => Value.tupleText forms

def nth (texts : List (Outcome String)) (place : Nat) : Outcome String :=
  texts.getD place (.ok "None")

def systemText (name : String) (args : List Value) (texts forms : List (Outcome String)) :
    Outcome String :=
  if isDetailed args then do
    let head := "[Errno " ++ (← nth texts 0) ++ "] " ++ (← nth texts 1)
    match file? name args, secondFile? name args with
    | none, _ => return head
    | some _, none => return head ++ ": " ++ (← nth forms 2)
    | some _, some _ => return head ++ ": " ++ (← nth forms 2) ++ " -> " ++ (← nth forms 4)
  else plainText texts forms

/-- A line number beyond all bounds is written as minus one. -/
def lineText? : Value → Option String
  | .int i => some (Number.intText (if withinWord i then i else -1))
  | _ => none

/-- The file is shown without its directory; file and line are shown only if they are a text and a
whole number. -/
def locatedText (args : List Value) (texts : List (Outcome String)) : Outcome String := do
  let message ← nth texts 0
  let file := ((detail? 0 args).bind Value.content?).map Text.Path.baseName
  let line := ((detail? 1 args).bind lineText?).map ("line " ++ ·)
  match file.toList ++ line.toList with
  | [] => return message
  | places => return message ++ " (" ++ String.intercalate ", " places ++ ")"

/-- The characters from the first to before the last one that cannot be treated, or the one
character if there is just one. -/
def spanText (verb unit : String) (shown : Int → Outcome String) (length : Nat) (first last : Int)
    (reason : String) : Outcome String := do
  let place ← if first < length ∧ last = first + 1 then do
      pure (unit ++ " " ++ (← shown first) ++ " in position " ++ Number.intText first)
    else
      pure (unit ++ "s in position " ++ Number.intText first ++ "-" ++ Number.intText (last - 1))
  return "can't " ++ verb ++ " " ++ place ++ ": " ++ reason

def shownChar (points : List Nat) (place : Int) : Outcome String :=
  if place < 0 then .error .brokenText
  else .ok ("'" ++ String.ofList (Text.numbered (points.getD place.toNat 0)) ++ "'")

def shownByte (content : List UInt8) (place : Int) : Outcome String :=
  .ok ("0x" ++ String.ofList (Text.hexadecimal 2 (content.getD place.toNat 0).toNat))

def codingText (args : List Value) (texts : List (Outcome String)) : Outcome String :=
  match args with
  | [_, .bytes content, first, last, _] => do
    let encoding ← nth texts 0
    let reason ← nth texts 4
    let span ← spanText "decode" "byte" (shownByte content) content.length (← first.index)
      (← last.index) reason
    return "'" ++ encoding ++ "' codec " ++ span
  | [_, object, first, last, _] => do
    let points := Text.codePoints (object.content?.getD "")
    let encoding ← nth texts 0
    let reason ← nth texts 4
    let span ← spanText "encode" "character" (shownChar points) points.length (← first.index)
      (← last.index) reason
    return "'" ++ encoding ++ "' codec " ++ span
  | [object, first, last, _] => do
    let points := Text.codePoints (object.content?.getD "")
    let reason ← nth texts 3
    spanText "translate" "character" (shownChar points) points.length (← first.index) (← last.index)
      reason
  | _ => .error .wrongType

def groupText (args : List Value) (texts : List (Outcome String)) : Outcome String := do
  let count := (members args).length
  return (← nth texts 0) ++ " (" ++ Number.natText count ++ " sub-exception" ++
    (if count = 1 then "" else "s") ++ ")"

def text (name : String) (args : List Value) (texts forms : List (Outcome String)) :
    Outcome String :=
  match family? name, texts with
  | some .missingKey, [_] => nth forms 0
  | some .system, _ => systemText name args texts forms
  | some .located, _ => locatedText args texts
  | some .encoding, _ => codingText args texts
  | some .decoding, _ => codingText args texts
  | some .recoding, _ => codingText args texts
  | some .group, _ => groupText args texts
  | _, _ => plainText texts forms

end Fault

end SelectBuilder
