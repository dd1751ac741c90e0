/-!
# Slash-separated paths

The plain form of a path: repeated slashes and single dots are dropped, double dots are kept. Two
leading slashes are a root of their own; any other number of them is one root.
-/
namespace SelectBuilder.Text.Path

def splitSlash (cs : List Char) : List (List Char) :=
  cs.foldr (fun c parts =>
    if c = '/' then [] :: parts
    else match parts with
      | [] => [[c]]
      | p :: rest => (c :: p) :: rest) [[]]

def root (cs : List Char) : List Char :=
  match (cs.takeWhile (· = '/')).length with
  | 0 => []
  | 2 => ['/', '/']
  | _ => ['/']

def normalize (s : String) : String :=
  let parts := (splitSlash s.toList).filter fun p => p ≠ [] && p ≠ ['.']
  let body := String.intercalate "/" (parts.map String.ofList)
  let whole := String.ofList (root s.toList) ++ body
  if whole.isEmpty then "." else whole

/-- What follows the last slash. -/
def baseName (s : String) : String :=
  String.ofList ((splitSlash s.toList).getLastD [])

end SelectBuilder.Text.Path
