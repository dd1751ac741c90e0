import SelectBuilder.Failure
import SelectBuilder.Number.Spelling

/-!
# Problems

A problem is an error as a value: its class, a detail, further texts and possibly a code. Its text
is the further texts followed by the detail, trimmed at both ends; the detail itself is kept as
given. The quoted form shows the number of the code.
-/
namespace SelectBuilder

/-- A problem may carry one of the listed codes, or anything else in its place; what counts of that
is the whole number that it can be read as, if it can. -/
inductive ProblemCode where
  | listed (code : ErrorCode)
  | other (reading : Outcome Int)

/-- A number is not written out beyond the greatest length. -/
def ProblemCode.numberText : ProblemCode → Outcome String
  | listed c => .ok (Number.natText c.number)
  | other reading => do
    let i ← reading
    if Number.isLong i then .error .wrongValue else return Number.intText i

/-- The title is the name under which the problem is shown: that of its class, or of a
specialisation that the class does not know. -/
structure Problem where
  kind : ProblemClass
  title : String
  detail : String
  others : List String
  code : Option ProblemCode

namespace Problem

/-- Without a detail the first text becomes the detail, and without either the fallback does, if
there is one. -/
def make (kind : ProblemClass) (title detail : String) (texts : List String)
    (fallback : Option String) (code : Option ProblemCode) : Problem :=
  if detail ≠ "" then ⟨kind, title, detail, texts, code⟩
  else match texts with
    | first :: rest => ⟨kind, title, first, rest, code⟩
    | [] => ⟨kind, title, fallback.getD "", [], code⟩

def text (p : Problem) : String := Text.trim (String.intercalate " " (p.others ++ [p.detail]))

def quoted (p : Problem) : Outcome String :=
  match p.code with
  | some c => do return p.title ++ "[" ++ (← c.numberText) ++ "] - " ++ p.detail
  | none => .ok (if p.detail = "" then p.title else p.title ++ " - " ++ p.detail)

/-- The same problem made once more from its further texts that are not empty, then given the
detail of the first. -/
def remade (p : Problem) : Problem :=
  { p with others := (p.others.filter fun s => s != "").drop 1 }

end Problem

namespace Misuse

def problem (m : Misuse) : Problem :=
  Problem.make m.kind m.kind.name "" [m.detail] none (m.kind.code?.map .listed)

def message (m : Misuse) : String := m.problem.text

end Misuse

end SelectBuilder
