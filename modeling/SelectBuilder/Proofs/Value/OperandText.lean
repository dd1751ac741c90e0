import SelectBuilder.Proofs.Value.Agreement

/-!
# Texts of operands

Operands of the kinds that a call is meant for, and the text that each comes to stand for in a
statement. The text is told from the operand alone. Only operands that may be anything can have
objects inside them; these count by what they show at the time of the call.
-/
namespace SelectBuilder

theorem SortDirection.word_of_ofWord? {s : String} {d : SortDirection}
    (h : SortDirection.ofWord? s = some d) : d.word = s := by
  simpa using List.find?_some h

theorem JoinType.word_of_ofWord? {s : String} {t : JoinType} (h : JoinType.ofWord? s = some t) :
    t.word = s := by
  simpa using List.find?_some h

namespace Value

def IsString : Value → Prop
  | text _ => True
  | _ => False

/-- A text that may be left out. -/
def IsOptional (v : Value) : Prop := v = null ∨ v.IsString

def string : Value → String
  | text s => s
  | _ => ""

theorem IsString.eq_text {v : Value} (h : v.IsString) : v = text v.string := by
  cases v with
  | text s => rfl
  | _ => exact h.elim

theorem IsOptional.isTrue {v : Value} (h : v.IsOptional) : v.isTrue = (v.string != "") := by
  rcases h with rfl | h
  · rfl
  · rw [h.eq_text]
    rfl

theorem IsOptional.toText {v : Value} (h : v.IsOptional) (filled : v.isTrue) (r : Resolver) :
    v.toText r = .ok v.string := by
  rcases h with rfl | h
  · cases filled
  · rw [h.eq_text]
    rfl

/-- A name, with an alias unless that is empty. -/
def aliasedText (name aliasName : String) : String :=
  if aliasName = "" then name else name ++ " AS " ++ aliasName

theorem aliased_text (r : Resolver) (name : String) {aliasName : Value}
    (h : aliasName.IsOptional) :
    aliased r (text name) aliasName = .ok (text (aliasedText name aliasName.string)) := by
  unfold aliased aliasedText
  by_cases filled : aliasName.isTrue
  · have some : aliasName.string ≠ "" := by simpa [h.isTrue] using filled
    rw [if_pos filled, if_neg some, h.toText filled]
    rfl
  · have none : aliasName.string = "" := by simpa [h.isTrue] using filled
    rw [if_neg filled, if_pos none]
    rfl

theorem IsOptional.orNull {v : Value} (h : v.IsOptional) :
    v.orNull.IsOptional ∧ v.orNull.string = v.string := by
  unfold Value.orNull
  split
  · exact ⟨h, rfl⟩
  · next empty =>
    have none : v.string = "" := by simpa [h.isTrue] using empty
    exact ⟨.inl rfl, none.symm⟩

/-- A column of a SELECT list. -/
def IsColumn : Value → Prop
  | text _ => True
  | column n a => n.IsString ∧ a.IsOptional
  | v => ∃ parts, v.sequence? = some parts ∧ ∀ p ∈ parts, p.IsOptional

def columnText : Value → String
  | text s => s
  | column n a => aliasedText n.string a.string
  | v =>
    match v.sequence? with
    | some [n] => n.string
    | some [n, a] => aliasedText n.string a.string
    | _ => ""

theorem IsOptional.string_of_isName {v : Value} (h : v.IsOptional) (name : v.isName) :
    v.IsString := by
  rcases h with rfl | h
  · cases name
  · exact h

theorem IsColumn.parts {v : Value} {parts : List Value} (h : v.IsColumn)
    (sequence : v.sequence? = some parts) :
    (∀ p ∈ parts, p.IsOptional) ∧ v.columnText = (list parts).columnText := by
  cases v with
  | list items | tuple items =>
    cases sequence
    obtain ⟨items', same, each⟩ := h
    cases same
    exact ⟨each, rfl⟩
  | _ => cases sequence

theorem IsColumn.render {v : Value} {c : Column} (h : v.IsColumn) (made : v.toColumn? = some c)
    (r : Resolver) : c.render r = .ok (text v.columnText) := by
  unfold toColumn? at made
  split at made
  · next n a =>
    obtain ⟨hn, ha⟩ := h
    split at made <;> cases made
    show aliased r n a = _
    rw [hn.eq_text]
    exact aliased_text r _ ha
  · split at made
    · next isText =>
      split at made <;> cases made
      have string : v.IsString := by
        cases v with
        | text s => trivial
        | joinType t => cases h.choose_spec.1
        | direction d => cases h.choose_spec.1
        | _ => cases isText
      rw [string.eq_text]
      rfl
    · split at made
      · next n sequence =>
        obtain ⟨each, same⟩ := h.parts sequence
        split at made <;> cases made
        next name =>
        rw [same, ((each n (by simp)).string_of_isName name).eq_text]
        rfl
      · next n a sequence =>
        obtain ⟨each, same⟩ := h.parts sequence
        split at made <;> cases made
        next name =>
        have absent := (each a (by simp)).orNull
        rw [same, ((each n (by simp)).string_of_isName name).eq_text]
        exact (aliased_text r _ absent.1).trans (by rw [absent.2]; rfl)
      · cases made

/-- The direction of an ordering, as a member of its vocabulary or a text. -/
def IsDirection : Value → Prop
  | null => True
  | text _ => True
  | direction _ => True
  | _ => False

def directionText : Value → String
  | direction d => " " ++ d.word
  | text s => if s = "" then "" else " " ++ Text.upper s
  | _ => ""

/-- An entry of an ORDER BY list. -/
def IsOrdering : Value → Prop
  | text _ => True
  | order c d => c.IsString ∧ d.IsDirection ∧ ¬d.IsString
  | v => ∃ c rest, v.sequence? = some (c :: rest) ∧ c.IsOptional ∧ ∀ d ∈ rest, d.IsDirection

def orderingText : Value → String
  | text s => s
  | order c d => c.string ++ d.directionText
  | v =>
    match v.sequence? with
    | some [c] => c.string
    | some [c, d] => c.string ++ d.directionText
    | _ => ""

theorem render_direction (r : Resolver) (c : String) (d : SortDirection) :
    SortItem.render r ⟨text c, direction d⟩ = .ok (text (c ++ " " ++ d.word)) := rfl

theorem render_noDirection (r : Resolver) (c : Value) : SortItem.render r ⟨c, null⟩ = .ok c := rfl

/-- A direction that was understood is written as its word. -/
theorem IsDirection.render {d d' : Value} {r : Resolver} (h : d.IsDirection)
    (made : d.toDirection? r = .ok (some d')) (c : String) (r' : Resolver) :
    SortItem.render r' ⟨text c, d'⟩ = .ok (text (c ++ d.directionText)) := by
  cases d with
  | null =>
    cases made
    simp [render_noDirection, directionText]
  | direction x =>
    cases made
    simp [render_direction, directionText, String.append_assoc]
  | text s =>
    by_cases empty : s = ""
    · subst empty
      cases made
      simp [render_noDirection, directionText]
    · rw [toDirection?_text r empty] at made
      obtain ⟨x, known, rfl⟩ := Option.map_eq_some_iff.mp (Except.ok.inj made)
      rw [render_direction, SortDirection.word_of_ofWord? known]
      simp [directionText, empty, String.append_assoc]
  | _ => exact h.elim

theorem IsOrdering.parts {v c : Value} {rest : List Value} (h : v.IsOrdering)
    (sequence : v.sequence? = some (c :: rest)) :
    c.IsOptional ∧ (∀ d ∈ rest, d.IsDirection) ∧
      v.orderingText = (list (c :: rest)).orderingText := by
  cases v with
  | list items | tuple items =>
    cases sequence
    obtain ⟨c', rest', same, optional, each⟩ := h
    cases same
    exact ⟨optional, each, rfl⟩
  | _ => cases sequence

theorem IsOrdering.render {v : Value} {i : SortItem} {r : Resolver} (h : v.IsOrdering)
    (made : v.toSortItem? r = .ok (some i)) (r' : Resolver) :
    i.render r' = .ok (text v.orderingText) := by
  unfold toSortItem? at made
  split at made
  · next c d =>
    obtain ⟨hc, hd, member⟩ := h
    split at made <;> cases made
    rw [hc.eq_text]
    cases d with
    | null => simp [render_noDirection, orderingText, directionText, string]
    | direction x =>
      simp [render_direction, orderingText, directionText, string, String.append_assoc]
    | text s => exact absurd trivial member
    | _ => exact hd.elim
  · split at made
    · next isText =>
      split at made <;> cases made
      have string : v.IsString := by
        cases v with
        | text s => trivial
        | joinType t => cases h.choose_spec.choose_spec.1
        | direction d => cases h.choose_spec.choose_spec.1
        | _ => cases isText
      rw [string.eq_text]
      rfl
    · split at made
      · next c sequence =>
        obtain ⟨optional, -, same⟩ := h.parts sequence
        split at made <;> cases made
        next name =>
        rw [same, (optional.string_of_isName name).eq_text]
        rfl
      · next c d sequence =>
        obtain ⟨optional, each, same⟩ := h.parts sequence
        split at made
        · next name =>
          obtain ⟨d', directed, made⟩ := Outcome.bind_eq_ok.mp made
          obtain ⟨d'', rfl, rfl⟩ := Option.map_eq_some_iff.mp (Except.ok.inj made)
          rw [same, (optional.string_of_isName name).eq_text]
          exact (each d (by simp)).render directed _ r'
        · cases made
      · cases made

/-- A whole number; truth values and codes are such numbers too. -/
def IsWhole : Value → Prop
  | int _ => True
  | bool _ => True
  | code _ => True
  | _ => False

def wholeText : Value → String
  | int i => Number.intText i
  | bool b => boolText b
  | code c => c.label
  | _ => ""

theorem IsWhole.toText {v : Value} (h : v.IsWhole) (r : Resolver) :
    v.toText r = .ok v.wholeText := by
  cases v with
  | int i | bool b | code c => rfl
  | _ => exact h.elim

theorem IsWhole.isNull {v : Value} (h : v.IsWhole) : v.isNull = false := by
  cases v with
  | int i | bool b | code c => rfl
  | _ => exact h.elim

def IsNumber : Value → Prop
  | double _ => True
  | decimal _ => True
  | v => v.IsWhole

def numberText : Value → String
  | double x => x.text
  | decimal d => d.text
  | v => v.wholeText

/-- The other side of a comparison. -/
def IsLiteral : Value → Prop
  | null => True
  | text _ => True
  | number v => v.IsNumber
  | quoted v => v.IsString
  | raw v => v.IsString
  | v => v.IsNumber

def literalText : Value → String
  | null => "NULL"
  | bool b => if b then "TRUE" else "FALSE"
  | text s => "'" ++ s ++ "'"
  | number v => v.numberText
  | quoted v => "'" ++ v.string ++ "'"
  | raw v => v.string
  | v => v.numberText

theorem IsNumber.toText {v : Value} (h : v.IsNumber) (r : Resolver) :
    v.toText r = .ok v.numberText := by
  cases v with
  | int i | bool b | code c | double x | decimal d => rfl
  | _ => exact h.elim

theorem IsString.toText {v : Value} (h : v.IsString) (r : Resolver) :
    v.toText r = .ok v.string := by
  rw [h.eq_text]
  rfl

theorem IsLiteral.toText {v l w : Value} {t : String} {r : Resolver} (h : v.IsLiteral)
    (literal : v.toLiteral r = .ok l) (rendered : l.render r = .ok w)
    (made : w.toText r = .ok t) : v.literalText = t := by
  cases v with
  | number v =>
    cases literal
    simp only [render, IsNumber.toText h] at rendered
    cases rendered
    cases made
    rfl
  | quoted v =>
    cases literal
    simp only [render, IsString.toText h] at rendered
    cases rendered
    cases made
    rfl
  | raw v =>
    cases literal
    cases rendered
    exact Except.ok.inj ((IsString.toText h r).symm.trans made)
  | null | bool b | text s | int i | double x | decimal d | code c =>
    cases literal
    cases rendered
    cases made
    rfl
  | _ => exact h.elim

/-- No builder is part of a value. -/
def BuilderFree (v : Value) : Prop := ∀ k, Reference.builder k ∉ v.references

/-- The resolver under which statements have no text. -/
def textless (shown : Reference → Outcome String) : Resolver :=
  ⟨fun _ => .error .unboundedText, shown⟩

/-- The text of a value without builders. -/
def written (shown : Reference → Outcome String) (v : Value) : String :=
  (v.toText (textless shown)).toOption.getD ""

theorem BuilderFree.written {v : Value} {r : Resolver} {t : String} (h : v.BuilderFree)
    (made : v.toText r = .ok t) : v.written r.quoted = t := by
  have agree : r.Agree (textless r.quoted) v.references :=
    ⟨fun k inside => absurd inside (h k), fun _ _ => rfl⟩
  rw [Value.written, ← toText_congr v agree, made]
  rfl

/-- The end of a range: what it says of itself is taken as it is. -/
def operandText (shown : Reference → Outcome String) : Value → String
  | number v => v.written shown
  | quoted v => "'" ++ v.written shown ++ "'"
  | raw v => v.written shown
  | v => v.written shown

/-- An item of a list; a verbatim one has to be text. -/
def itemText (shown : Reference → Outcome String) : Value → String
  | raw v => v.content?.getD ""
  | v => v.operandText shown

/-- What stands between the parentheses of a list. -/
def listText (shown : Reference → Outcome String) (v : Value) : String :=
  if v.isText then v.written shown
  else String.intercalate ", " ((v.items?.getD []).map (itemText shown))

theorem BuilderFree.operandText {v w : Value} {r : Resolver} {t : String} (h : v.BuilderFree)
    (raw : v.toRaw r = .ok w) (made : w.toText r = .ok t) : v.operandText r.quoted = t := by
  cases v with
  | raw v =>
    cases raw
    exact BuilderFree.written (v := w) h made
  | quoted v =>
    obtain ⟨s, text, raw⟩ := Outcome.bind_eq_ok.mp raw
    cases raw
    cases made
    exact congrArg (fun s => "'" ++ s ++ "'") (BuilderFree.written (v := v) h text)
  | number v =>
    obtain ⟨s, text, raw⟩ := Outcome.bind_eq_ok.mp raw
    cases raw
    cases made
    exact BuilderFree.written (v := v) h text
  | _ =>
    obtain ⟨s, text, raw⟩ := Outcome.bind_eq_ok.mp raw
    cases raw
    cases made
    exact h.written text

theorem BuilderFree.itemText {v w : Value} {r : Resolver} {t : String} (h : v.BuilderFree)
    (raw : v.toRaw r = .ok w) (content : w.content? = some t) : v.itemText r.quoted = t := by
  cases v with
  | raw v =>
    cases raw
    simp [Value.itemText, content]
  | _ =>
    have text : w.toText r = .ok t := by
      obtain ⟨s, -, raw⟩ := Outcome.bind_eq_ok.mp raw
      cases raw
      cases content
      rfl
    exact h.operandText raw text

theorem BuilderFree.itemTexts {items raws : List Value} {texts : List String} {r : Resolver}
    (h : ∀ v ∈ items, v.BuilderFree) (raw : items.mapM (toRaw r) = .ok raws)
    (content : raws.mapM content? = some texts) :
    items.map (Value.itemText r.quoted) = texts := by
  induction items generalizing raws texts with
  | nil =>
    cases raw
    cases content
    rfl
  | cons v rest ih =>
    rw [List.mapM_cons] at raw
    obtain ⟨w, first, raw⟩ := Outcome.bind_eq_ok.mp raw
    obtain ⟨ws, others, raw⟩ := Outcome.bind_eq_ok.mp raw
    cases raw
    rw [List.mapM_cons] at content
    obtain ⟨t, text, content⟩ := Option.bind_eq_some_iff.mp content
    obtain ⟨ts, texts, content⟩ := Option.bind_eq_some_iff.mp content
    cases content
    rw [List.map_cons, (h v List.mem_cons_self).itemText first text,
      ih (fun u hu => h u (List.mem_cons_of_mem v hu)) others texts]

variable {shown shown' : Reference → Outcome String}

theorem written_congr (v : Value) (h : ∀ x ∈ v.references, shown x = shown' x) :
    v.written shown = v.written shown' := by
  have agree : (textless shown).Agree (textless shown') v.references := ⟨fun _ _ => rfl, h⟩
  rw [written, written, toText_congr v agree]

theorem operandText_congr (v : Value) (h : ∀ x ∈ v.references, shown x = shown' x) :
    v.operandText shown = v.operandText shown' := by
  cases v with
  | quoted v => exact congrArg (fun s => "'" ++ s ++ "'") (written_congr v h)
  | number v => exact written_congr v h
  | raw v => exact written_congr v h
  | _ => exact written_congr _ h

theorem itemText_congr (v : Value) (h : ∀ x ∈ v.references, shown x = shown' x) :
    v.itemText shown = v.itemText shown' := by
  cases v with
  | raw v => rfl
  | _ => exact operandText_congr _ h

theorem listText_congr (v : Value) (h : ∀ x ∈ v.references, shown x = shown' x) :
    v.listText shown = v.listText shown' := by
  unfold listText
  rw [written_congr v h]
  cases found : v.items? with
  | none => rfl
  | some items =>
    have each : items.map (itemText shown) = items.map (itemText shown') :=
      List.map_congr_left fun i hi =>
        itemText_congr i fun x hx => h x (references_items? found hi hx)
    rw [Option.getD_some, each]

/-- A table, wrapped or not, with an alias unless that is empty. -/
def tableText (source aliasName : String) (wrapped : Bool) : String :=
  aliasedText (if wrapped then "( " ++ source ++ " )" else source) aliasName

theorem render_table (r : Resolver) (source : String) {aliasName : Value}
    (h : aliasName.IsOptional) (wrapped : Value) :
    Table.render r ⟨text source, aliasName, wrapped⟩ =
      .ok (text (tableText source aliasName.string wrapped.isTrue)) := by
  unfold Table.render tableText
  dsimp only
  split
  · rw [toText_text]
    exact aliased_text r _ h
  · exact aliased_text r _ h

/-- The target of a join. -/
def IsTarget : Value → Prop
  | table s a _ => s.IsString ∧ a.IsOptional
  | v => ∃ parts, v.sequence? = some parts ∧ ∀ p ∈ parts, p.IsOptional

def targetText (wrapped : Bool) : Value → String
  | table s a q => tableText s.string a.string (wrapped || q.isTrue)
  | v =>
    match v.sequence? with
    | some [s, a] => tableText s.string a.string wrapped
    | _ => ""

theorem IsTarget.parts {v : Value} {parts : List Value} (h : v.IsTarget)
    (sequence : v.sequence? = some parts) :
    (∀ p ∈ parts, p.IsOptional) ∧
      ∀ wrapped, v.targetText wrapped = (list parts).targetText wrapped := by
  cases v with
  | list items | tuple items =>
    cases sequence
    obtain ⟨items', same, each⟩ := h
    cases same
    exact ⟨each, fun _ => rfl⟩
  | _ => cases sequence

end Value

end SelectBuilder
