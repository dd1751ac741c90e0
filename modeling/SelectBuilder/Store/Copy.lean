import SelectBuilder.Store.Basic
import SelectBuilder.Value.Relocation

/-!
# Deep copies

A copy of a builder is a copy of everything that it reaches: its configuration, the builders that
its clauses refer to, and what these reach in turn. Objects shared among them are shared among the
copies, and a builder that refers to itself is copied to one that refers to itself.
-/
namespace SelectBuilder

def Config.references (c : Config) : List Reference :=
  c.fields.flatMap fun f => f.2.references

def Config.relocate (f : Reference → Reference) (c : Config) : Config :=
  ⟨c.dialect.relocate f, c.checkPagination.relocate f, c.strict.relocate f⟩

namespace Store

/-- The objects to which an object refers. -/
def links (s : Store) : Reference → List Reference
  | .builder id =>
    match s.builders[id]? with
    | some b => .config b.config :: b.clauses.flatMap Clause.references
    | none => []
  | .config id =>
    match s.configs[id]? with
    | some c => c.references
    | none => []

/-- The objects at most so many references away, each of them once. -/
def within (s : Store) (start : List Reference) : Nat → List Reference
  | 0 => start
  | n + 1 =>
    let near := s.within start n
    (near ++ near.flatMap s.links).eraseDups

/-- No chain of distinct objects is longer than the store. -/
def reached (s : Store) (r : Reference) : List Reference :=
  s.within [r] (s.builders.length + s.configs.length)

/-- The new place of every object that is copied; the others stay where they are. -/
def placement (s : Store) (builders configs : List Nat) : Reference → Reference
  | .builder id =>
    .builder (match builders.idxOf? id with
      | some k => s.builders.length + k
      | none => id)
  | .config id =>
    .config (match configs.idxOf? id with
      | some k => s.configs.length + k
      | none => id)

def relocateBuilder (f : Reference → Reference) (b : Builder) : Builder :=
  { b with
    config := (Reference.config? (f (.config b.config))).getD b.config
    clauses := b.clauses.map (Clause.relocate f) }

/-- The store with the copies at its end, and the number of the copy of the builder. -/
def copy (s : Store) (id : Nat) : Store × Nat :=
  let objects := s.reached (.builder id)
  let builders := objects.filterMap Reference.builder?
  let configs := objects.filterMap Reference.config?
  let f := s.placement builders configs
  ({ builders := s.builders ++ (builders.filterMap (s.builders[·]?)).map (relocateBuilder f)
     configs := s.configs ++ (configs.filterMap (s.configs[·]?)).map (Config.relocate f) },
    (Reference.builder? (f (.builder id))).getD id)

end Store

end SelectBuilder
