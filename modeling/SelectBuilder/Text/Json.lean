import SelectBuilder.Text.Quoted

/-!
# JSON strings

A string of a JSON text: the quote, the backslash and the control characters are escaped, all
other characters stand for themselves. The text of a string therefore never holds a line end.
-/
namespace SelectBuilder.Text.Json

def escape (c : Char) : List Char :=
  match c with
  | '"' => ['\\', '"']
  | '\\' => ['\\', '\\']
  | '\x08' => ['\\', 'b']
  | '\x0c' => ['\\', 'f']
  | '\n' => ['\\', 'n']
  | '\r' => ['\\', 'r']
  | '\t' => ['\\', 't']
  | c => if c.toNat < 32 then '\\' :: 'u' :: hexadecimal 4 c.toNat else [c]

def stringChars (cs : List Char) : List Char := '"' :: cs.flatMap escape ++ ['"']

def string (s : String) : String := String.ofList (stringChars s.toList)

def array (items : List String) : String := "[" ++ String.intercalate "," items ++ "]"

def member (key value : String) : String := string key ++ ":" ++ value

def object (members : List (String × String)) : String :=
  "\x7b" ++ String.intercalate "," (members.map fun m => member m.1 m.2) ++ "\x7d"

end SelectBuilder.Text.Json
