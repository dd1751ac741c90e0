import SelectBuilder.Clause.Basic

/-!
# References inside values

The references that a value or clause keeps, and their replacement by others. A value moved in
this way is made anew from its parts.
-/
namespace SelectBuilder

namespace Value

mutual

@[simp] def references : Value → List Reference
  | list items => referencesAll items
  | tuple items => referencesAll items
  | set items => referencesAll items
  | iterator items => referencesAll items
  | dict entries => referencesEntries entries
  | number v => v.references
  | quoted v => v.references
  | raw v => v.references
  | column n a => n.references ++ a.references
  | table s a q => s.references ++ a.references ++ q.references
  | order c d => c.references ++ d.references
  | fault _ args => referencesAll args
  | reference r => [r]
  | _ => []

def referencesAll : List Value → List Reference
  | [] => []
  | v :: rest => v.references ++ referencesAll rest

def referencesEntries : List (Value × Value) → List Reference
  | [] => []
  | (k, v) :: rest => k.references ++ v.references ++ referencesEntries rest

end

mutual

/-- A value made anew with other references. A set keeps the order of its items here, which is
certain only of a set with at most one item. -/
def relocate (f : Reference → Reference) : Value → Value
  | list items => list (relocateAll f items)
  | tuple items => tuple (relocateAll f items)
  | set items => set (relocateAll f items)
  | iterator items => iterator (relocateAll f items)
  | dict entries => dict (relocateEntries f entries)
  | number v => number (v.relocate f)
  | quoted v => quoted (v.relocate f)
  | raw v => raw (v.relocate f)
  | column n a => column (n.relocate f) (a.relocate f)
  | table s a q => table (s.relocate f) (a.relocate f) (q.relocate f)
  | order c d => order (c.relocate f) (d.relocate f)
  | problem p => problem p.remade
  | fault name args => fault name (relocateAll f args)
  | reference r => reference (f r)
  | v => v

def relocateAll (f : Reference → Reference) : List Value → List Value
  | [] => []
  | v :: rest => v.relocate f :: relocateAll f rest

def relocateEntries (f : Reference → Reference) : List (Value × Value) → List (Value × Value)
  | [] => []
  | (k, v) :: rest => (k.relocate f, v.relocate f) :: relocateEntries f rest

end

@[simp] theorem referencesAll_eq_flatMap (vs : List Value) :
    referencesAll vs = vs.flatMap references := by
  induction vs with
  | nil => rfl
  | cons v rest ih => simp [referencesAll, ih]

@[simp] theorem relocateAll_eq_map (f : Reference → Reference) (vs : List Value) :
    relocateAll f vs = vs.map (relocate f) := by
  induction vs with
  | nil => rfl
  | cons v rest ih => simp [relocateAll, ih]

end Value

def Column.relocate (f : Reference → Reference) (c : Column) : Column :=
  ⟨c.name.relocate f, c.aliasName.relocate f⟩

def Table.relocate (f : Reference → Reference) (t : Table) : Table :=
  ⟨t.source.relocate f, t.aliasName.relocate f, t.isSubquery.relocate f⟩

def SortItem.relocate (f : Reference → Reference) (s : SortItem) : SortItem :=
  ⟨s.column.relocate f, s.direction.relocate f⟩

def Table.references (t : Table) : List Reference :=
  t.source.references ++ t.aliasName.references ++ t.isSubquery.references

namespace Clause

def references : Clause → List Reference
  | select columns => columns.flatMap fun c => c.name.references ++ c.aliasName.references
  | source target => target.references
  | condition _ head _ => head.references
  | join _ target left right => target.references ++ left.references ++ right.references
  | groupBy columns => columns.flatMap Value.references
  | orderBy items => items.flatMap fun i => i.column.references ++ i.direction.references
  | limit count offset => count.references ++ offset.references
  | union _ query => query.references

def relocate (f : Reference → Reference) : Clause → Clause
  | select columns => select (columns.map (Column.relocate f))
  | source target => source (target.relocate f)
  | condition kind head parts => condition kind (head.relocate f) parts
  | join t target left right => join t (target.relocate f) (left.relocate f) (right.relocate f)
  | groupBy columns => groupBy (columns.map (Value.relocate f))
  | orderBy items => orderBy (items.map (SortItem.relocate f))
  | limit count offset => limit (count.relocate f) (offset.relocate f)
  | union all query => union all (query.relocate f)

end Clause

end SelectBuilder
