import SelectBuilder.Number.Shortest
import SelectBuilder.Value.Fault

/-!
# Printing values

A value has a quoted form, which shows its structure, and a text. The two differ only for text,
paths, codes, exact decimal numbers, errors and references to statements: the text of a statement
is its SQL, which it need not have. Nor need a problem have a quoted form, if its code is no
number.
-/
namespace SelectBuilder

/-- How references are shown. -/
structure Resolver where
  statement : Nat → Outcome String
  quoted : Reference → Outcome String

namespace Value

mutual

def quotedForm (name : Reference → Outcome String) : Value → Outcome String
  | null => .ok "None"
  | bool b => .ok (boolText b)
  | int i => .ok (Number.intText i)
  | double x => .ok x.text
  | decimal d => callText "Decimal" [.ok ("'" ++ d.text ++ "'")]
  | text s => .ok (Text.quoted s)
  | joinType t => .ok (memberText "JoinType" t.word ("'" ++ t.word ++ "'"))
  | direction d => .ok (memberText "SortDirection" d.word ("'" ++ d.word ++ "'"))
  | code c => .ok (memberText "BuilderErrorCode" c.name (Number.natText c.number))
  | list items => enclosed "[" "]" (quotedForms name items)
  | tuple items => tupleText (quotedForms name items)
  | set items => setText (quotedForms name items)
  | dict entries => enclosed "\x7b" "\x7d" (quotedEntries name entries)
  | bytes content => .ok (Text.quotedBytes content)
  | path location => callText "PurePosixPath" [.ok (Text.quoted location)]
  | iterator _ => .ok "<list_iterator>"
  | number v => fieldsText "Number" [("value", quotedForm name v)]
  | quoted v => fieldsText "Text" [("value", quotedForm name v)]
  | raw v => fieldsText "RawExpression" [("sql", quotedForm name v)]
  | column n a =>
    fieldsText "ColumnSpec" [("name", quotedForm name n), ("alias", quotedForm name a)]
  | table s a q =>
    fieldsText "TableRef"
      [("source", quotedForm name s), ("alias", quotedForm name a),
        ("is_subquery", quotedForm name q)]
  | order c d =>
    fieldsText "OrderSpec" [("column", quotedForm name c), ("direction", quotedForm name d)]
  | problem p => p.quoted
  | fault kind args =>
    callText kind ((quotedForms name args).take (Fault.shownCount kind args))
  | reference r => name r

def quotedForms (name : Reference → Outcome String) : List Value → List (Outcome String)
  | [] => []
  | v :: rest => quotedForm name v :: quotedForms name rest

def quotedEntries (name : Reference → Outcome String) :
    List (Value × Value) → List (Outcome String)
  | [] => []
  | (k, v) :: rest => entryText (quotedForm name k) (quotedForm name v) :: quotedEntries name rest

end

@[simp] theorem quotedForms_eq_map (name : Reference → Outcome String) (vs : List Value) :
    quotedForms name vs = vs.map (quotedForm name) := by
  induction vs with
  | nil => rfl
  | cons v rest ih => simp [quotedForms, ih]

mutual

def toText (r : Resolver) : Value → Outcome String
  | text s => .ok s
  | joinType t => .ok ("JoinType." ++ t.word)
  | direction d => .ok ("SortDirection." ++ d.word)
  | code c => .ok c.label
  | decimal d => .ok d.text
  | path location => .ok location
  | problem p => .ok p.text
  | fault kind args => Fault.text kind args (toTexts r args) (quotedForms r.quoted args)
  | reference (.builder id) => r.statement id
  | v => quotedForm r.quoted v

def toTexts (r : Resolver) : List Value → List (Outcome String)
  | [] => []
  | v :: rest => toText r v :: toTexts r rest

end

@[simp] theorem toTexts_eq_map (r : Resolver) (vs : List Value) :
    toTexts r vs = vs.map (toText r) := by
  induction vs with
  | nil => rfl
  | cons v rest ih => simp [toTexts, ih]

@[simp] theorem toText_text (r : Resolver) (s : String) : toText r (text s) = .ok s := rfl

@[simp] theorem toText_int (r : Resolver) (i : Int) :
    toText r (int i) = .ok (Number.intText i) := rfl

@[simp] theorem toText_builder (r : Resolver) (id : Nat) :
    toText r (reference (.builder id)) = r.statement id := rfl

end Value

end SelectBuilder
