import SelectBuilder.Builder.Basic

/-!
# Stores

A store holds builders and configurations, numbered in the order in which they were made. Builders
may share a configuration, and clauses may keep references to builders, even to their own.

The text of a statement goes through the builders it refers to, none of which may be entered a
second time while it is being written: a statement that contains itself has no finite text. The
quoted form of an object shows a repeated object by dots.
-/
namespace SelectBuilder

structure Config where
  dialect : Value := .null
  checkPagination : Value := .bool true
  strict : Value := .bool true

structure Store where
  builders : List Builder := []
  configs : List Config := []

namespace Config

def fields (c : Config) : List (String × Value) :=
  [("dialect", c.dialect), ("validate_pagination", c.checkPagination),
    ("strict_fragments", c.strict)]

end Config

namespace Store

def references (s : Store) : List Reference :=
  (List.range s.builders.length).map .builder ++ (List.range s.configs.length).map .config

/-- The configuration of a builder; every builder of a well-formed store has one. -/
def configOf (s : Store) (b : Builder) : Config := s.configs.getD b.config {}

theorem length_erase_lt {α : Type} [BEq α] [LawfulBEq α] {a : α} {l : List α} (h : a ∈ l) :
    (l.erase a).length < l.length := by
  have := List.length_pos_of_mem h
  rw [List.length_erase_of_mem h]
  omega

/-- The quoted form of an object, with the objects that may still be opened. -/
def quotedWithin (s : Store) (pending : List Reference) (r : Reference) : Outcome String :=
  if _h : r ∈ pending then
    match r with
    | .builder id =>
      match s.builders[id]? with
      | some b =>
        Value.fieldsText "Select" [("config", s.quotedWithin (pending.erase r) (.config b.config))]
      | none => .ok "..."
    | .config id =>
      match s.configs[id]? with
      | some c =>
        Value.fieldsText "BuilderConfig"
          (c.fields.map fun f => (f.1, f.2.quotedForm (s.quotedWithin (pending.erase r))))
      | none => .ok "..."
  else .ok "..."
termination_by pending.length
decreasing_by
  all_goals exact length_erase_lt (by assumption)

def quoted (s : Store) (r : Reference) : Outcome String := s.quotedWithin s.references r

/-- The text of a statement, with the builders that may still be entered. -/
def textWithin (s : Store) (pending : List Nat) (id : Nat) : Outcome String :=
  if _h : id ∈ pending then
    match s.builders[id]? with
    | some b => b.render ⟨s.textWithin (pending.erase id), s.quoted⟩
    | none => .error .unboundedText
  else .error .unboundedText
termination_by pending.length
decreasing_by exact length_erase_lt _h

/-- The SQL text of a statement. -/
def render (s : Store) (id : Nat) : Outcome String :=
  s.textWithin (List.range s.builders.length) id

def resolver (s : Store) : Resolver := ⟨s.render, s.quoted⟩

def addConfig (s : Store) (c : Config) : Store × Nat :=
  ({ s with configs := s.configs ++ [c] }, s.configs.length)

def addBuilder (s : Store) (b : Builder) : Store × Nat :=
  ({ s with builders := s.builders ++ [b] }, s.builders.length)

def setConfig (s : Store) (id : Nat) (c : Config) : Store :=
  { s with configs := s.configs.set id c }

def setBuilder (s : Store) (id : Nat) (b : Builder) : Store :=
  { s with builders := s.builders.set id b }

@[simp] theorem builders_setBuilder (s : Store) (id : Nat) (b : Builder) :
    (s.setBuilder id b).builders = s.builders.set id b := rfl

@[simp] theorem configs_setBuilder (s : Store) (id : Nat) (b : Builder) :
    (s.setBuilder id b).configs = s.configs := rfl

@[simp] theorem builders_setConfig (s : Store) (id : Nat) (c : Config) :
    (s.setConfig id c).builders = s.builders := rfl

end Store

end SelectBuilder
