import SelectBuilder.Proofs.Builder.Announcing
import SelectBuilder.Proofs.Logging.Reception

/-!
# Lines of the console

The records of the builders are made of fixed words and of counts. Only the text and the dialect of
a finished statement come from elsewhere, and a plain line shows neither: it is one line of
characters that can be printed, and known without them.
-/
namespace SelectBuilder.Logging

/-- The fields whose contents the builders have not made up themselves. -/
def foreignFields : List String := ["sql", "dialect"]

/-- A record without the contents of these fields. -/
def Record.redacted (x : Record) : Record :=
  { x with
    fields := x.fields.map fun f => if foreignFields.contains f.1 then (f.1, .null) else f }

/-- A text has only characters that can be printed, and so no line ends. -/
def IsLine (t : String) : Prop := ∀ c ∈ t.toList, 32 ≤ c.toNat ∧ c.toNat < 127

-- This checks the characters of the text; a search among all that there are would never end.
instance (t : String) : Decidable (IsLine t) := List.decidableBAll _ t.toList

variable {setup : Setup} {s : Store} {x y : Record} {t u : String}

theorem IsLine.append (ht : IsLine t) (hu : IsLine u) : IsLine (t ++ u) := by
  intro c among
  rcases List.mem_append.mp (String.toList_append ▸ among) with first | second
  · exact ht c first
  · exact hu c second

/-- What stands before the message of a record of the builders. -/
def opening : String := "1970-01-01 00:00:00,000 - querychain.builder - DEBUG - "

theorem Record.Says.plainLine {message : String} {fields : List (String × Value)}
    (h : x.Says message fields) (s : Store) :
    Logging.plainLine s x = .ok (opening ++ message) := by
  have words : "1970-01-01 00:00:00,000" ++ " - " ++ builderName ++ " - " ++
      levelTitle debugLevel ++ " - " = opening := by decide
  simp only [Logging.plainLine, timestamp_none, h.message, h.logger, h.level, Outcome.ok_bind]
  rw [← words]
  rfl

end SelectBuilder.Logging
