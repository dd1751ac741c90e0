import SelectBuilder.Store.Basic

/-!
# Equality of values

Numbers of every kind are equal when their exact values are, and members of a vocabulary are equal
to the value they carry. Collections and descriptors are compared part by part, up to the first
difference; only tuples of different lengths get as far as that. Builders are equal when their
configurations are; their clauses do not count.
-/
namespace SelectBuilder

namespace Value

/-- Equality of values without parts. -/
def samePlain (a b : Value) : Outcome Bool :=
  match a.numeric?, b.numeric? with
  | some x, some y => x.same y
  | _, _ =>
    match a.content?, b.content? with
    | some x, some y => .ok (x == y)
    | _, _ =>
      match a, b with
      | null, null => .ok true
      | bytes x, bytes y => .ok (x == y)
      | path x, path y => .ok (x == y)
      | _, _ => .ok false

/-- Goes on only if the first part is equal. -/
def both (a : Outcome Bool) (b : Unit → Outcome Bool) : Outcome Bool := do
  if ← a then b () else return false

mutual

def same (object : Reference → Reference → Outcome Bool) : Value → Value → Outcome Bool
  | list xs, list ys => if xs.length = ys.length then sameAll object xs ys else .ok false
  | tuple xs, tuple ys => sameAll object xs ys
  | set xs, set ys => if xs.length = ys.length then sameAll object xs ys else .ok false
  | dict xs, dict ys => if xs.length = ys.length then sameEntries object xs ys else .ok false
  | number x, number y => same object x y
  | quoted x, quoted y => same object x y
  | raw x, raw y => same object x y
  | column n a, column m b => both (same object n m) fun _ => same object a b
  | table s a p, table t b q =>
    both (same object s t) fun _ => both (same object a b) fun _ => same object p q
  | order c d, order e f => both (same object c e) fun _ => same object d f
  | reference x, reference y => object x y
  | x, y => samePlain x y

def sameAll (object : Reference → Reference → Outcome Bool) :
    List Value → List Value → Outcome Bool
  | x :: xs, y :: ys => both (same object x y) fun _ => sameAll object xs ys
  | [], [] => .ok true
  | _, _ => .ok false

/-- Every entry of the one dictionary is found in the other. -/
def sameEntries (object : Reference → Reference → Outcome Bool) :
    List (Value × Value) → List (Value × Value) → Outcome Bool
  | [], _ => .ok true
  | (k, v) :: rest, ys =>
    match ys.find? (fun y => (same object k y.1).toOption.getD false) with
    | some y => both (same object v y.2) fun _ => sameEntries object rest ys
    | none => .ok false

end

end Value

namespace Store

/-- Equality of objects, with the pairs of configurations that may still be compared. An object is
equal to itself. -/
def sameWithin (s : Store) (pending : List (Nat × Nat)) (a b : Reference) : Outcome Bool :=
  let pair? : Option (Nat × Nat) :=
    match a, b with
    | .builder i, .builder j =>
      match s.builders[i]?, s.builders[j]? with
      | some x, some y => some (x.config, y.config)
      | _, _ => none
    | .config i, .config j => some (i, j)
    | _, _ => none
  match pair? with
  | none => .ok false
  | some (i, j) =>
    if i = j then .ok true
    else if _h : (i, j) ∈ pending then
      match s.configs[i]?, s.configs[j]? with
      | some c, some d =>
        Value.sameAll (s.sameWithin (pending.erase (i, j))) (c.fields.map Prod.snd)
          (d.fields.map Prod.snd)
      | _, _ => .ok false
    else .error .unboundedText
termination_by pending.length
decreasing_by exact length_erase_lt _h

def same (s : Store) (a b : Value) : Outcome Bool :=
  let ids := List.range s.configs.length
  a.same (s.sameWithin (ids.flatMap fun i => ids.map fun j => (i, j))) b

/-- Whether a value is found under a key; a comparison that fails finds nothing. -/
def matchesKey (s : Store) (a b : Value) : Bool := (s.same a b).toOption.getD false

/-- Puts a value where an equal key stands, or at the end. -/
def putEntry (s : Store) (key v : Value) : List (Value × Value) → List (Value × Value)
  | [] => [(key, v)]
  | e :: rest => if s.matchesKey e.1 key then (e.1, v) :: rest else e :: s.putEntry key v rest

/-- Puts a value under a key that can be looked up. -/
def putNew (s : Store) (key v : Value) (entries : List (Value × Value)) :
    Outcome (List (Value × Value)) :=
  if key.isHashable then .ok (s.putEntry key v entries) else .error .wrongType

/-- A set of items, the first one of equal items counting. -/
def setOf (s : Store) (items : List Value) : Outcome Value :=
  if items.all Value.isHashable then
    .ok (.set (items.foldl (fun xs x => if xs.any (s.matchesKey x) then xs else xs ++ [x]) []))
  else .error .wrongType

end Store

end SelectBuilder
