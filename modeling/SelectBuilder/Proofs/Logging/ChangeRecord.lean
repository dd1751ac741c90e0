import SelectBuilder.Proofs.Outcome
import SelectBuilder.Session

/-!
# Records of changes

The record of a change has a message, whatever the statement holds, and no receiver fails on it
under any setup. So a change that was made is never given up because it could not be reported.
-/
namespace SelectBuilder

open Outcome

namespace Logging

theorem readDirective_text (s : Supply) (rest : List Char) :
    readDirective s ('s' :: rest) = .ok (⟨{}, 0, none, 's'⟩, s, rest) := rfl

theorem apply_text (r : Resolver) (t : String) :
    Directive.apply r ⟨{}, 0, none, 's'⟩ (.text t) = .ok t.toList := by
  have width : ¬ Text.greatestLength ≤ 0 := by decide
  simp [Directive.apply, Directive.field, Field.fill, width]
  rfl

/-- A text argument is written as it stands. -/
theorem fillFrom_text (r : Resolver) (n : Nat) (t : String) (queue : List Value)
    (rest : List Char) :
    fillFrom r (n + 1) ⟨.text t :: queue, none, true⟩ ('%' :: 's' :: rest) =
      (fillFrom r n ⟨queue, none, true⟩ rest).map (t.toList ++ ·) := by
  simp [fillFrom, readDirective_text, Supply.next, apply_text, bind, Except.bind]
  rfl

theorem fillFrom_letter (r : Resolver) (n : Nat) (s : Supply) (c : Char) (rest : List Char)
    (plain : c ≠ '%') :
    fillFrom r (n + 1) s (c :: rest) = (fillFrom r n s rest).map (c :: ·) := by
  rw [fillFrom.eq_5 _ _ _ _ _ (fun _ h _ => plain h) (fun h => plain h)]
  cases fillFrom r n s rest <;> rfl

theorem fillFrom_word (fuel n : Nat) (r : Resolver) (s : Supply) (word rest : List Char)
    (enough : fuel = n + word.length) (plain : '%' ∉ word) :
    fillFrom r fuel s (word ++ rest) = (fillFrom r n s rest).map (word ++ ·) := by
  subst enough
  induction word with
  | nil => cases h : fillFrom r n s rest <;> simp [Except.map, h]
  | cons c word ih =>
    have first : c ≠ '%' := fun h => plain (h ▸ List.mem_cons_self)
    have others := ih fun h => plain (List.mem_cons_of_mem _ h)
    rw [List.cons_append, List.length_cons, ← Nat.add_assoc, fillFrom_letter _ _ _ _ _ first,
      others]
    cases fillFrom r n s rest <;> rfl

theorem fillFrom_end (r : Resolver) (n : Nat) :
    fillFrom r (n + 1) ⟨[], none, true⟩ [] = .ok [] := rfl

theorem fill_appended (r : Resolver) (keyword : String) :
    fill r "Appended %s clause" [.text keyword] = .ok ("Appended " ++ keyword ++ " clause") := by
  have split : "Appended %s clause".toList =
      "Appended ".toList ++ '%' :: 's' :: (" clause".toList ++ []) := by decide
  have filled : fillFrom r 19 ⟨[.text keyword], none, true⟩ "Appended %s clause".toList =
      .ok ("Appended ".toList ++ (keyword.toList ++ (" clause".toList ++ []))) := by
    rw [split, fillFrom_word 19 10 r _ "Appended ".toList _ rfl (by decide), fillFrom_text,
      fillFrom_word 9 2 r _ " clause".toList _ rfl (by decide), fillFrom_end]
    rfl
  calc fill r "Appended %s clause" [.text keyword]
      = (fillFrom r 19 ⟨[.text keyword], none, true⟩ "Appended %s clause".toList).map
          String.ofList := rfl
    _ = .ok ("Appended " ++ keyword ++ " clause") := by
      rw [filled]
      simp only [Except.map, String.ofList_append, String.ofList_toList, String.append_assoc]
      rfl

theorem fill_extended (r : Resolver) (keyword operator : String) :
    fill r "Extended %s clause with %s" [.text keyword, .text operator] =
      .ok ("Extended " ++ keyword ++ " clause with " ++ operator) := by
  have split : "Extended %s clause with %s".toList =
      "Extended ".toList ++ '%' :: 's' :: (" clause with ".toList ++ '%' :: 's' :: []) := by
    decide
  have filled :
      fillFrom r 27 ⟨[.text keyword, .text operator], none, true⟩
          "Extended %s clause with %s".toList =
        .ok ("Extended ".toList ++
          (keyword.toList ++ (" clause with ".toList ++ (operator.toList ++ [])))) := by
    rw [split, fillFrom_word 27 18 r _ "Extended ".toList _ rfl (by decide), fillFrom_text,
      fillFrom_word 17 4 r _ " clause with ".toList _ rfl (by decide), fillFrom_text,
      fillFrom_end]
    rfl
  calc fill r "Extended %s clause with %s" [.text keyword, .text operator]
      = (fillFrom r 27 ⟨[.text keyword, .text operator], none, true⟩
          "Extended %s clause with %s".toList).map String.ofList := rfl
    _ = .ok ("Extended " ++ keyword ++ " clause with " ++ operator) := by
      rw [filled]
      simp only [Except.map, String.ofList_append, String.ofList_toList, String.append_assoc,
        List.append_nil]

theorem timestamp_bounded : Bounded (timestamp none) := by
  show Bounded (dateText defaultDateFormat >>= fun t => pure (t ++ ",000"))
  refine Bounded.bind ?_ fun t _ => bounded_ok _
  simp only [dateText]
  split
  · exact bounded_error (by decide)
  · exact bounded_ok _

theorem json_text_bounded (s : Store) (t : String) : Bounded (s.json (.text t)) := by
  show Bounded (Value.jsonString t)
  unfold Value.jsonString
  split
  · exact bounded_ok _
  · exact bounded_error (by decide)

theorem json_int_bounded (s : Store) (i : Int) : Bounded (s.json (.int i)) := bounded_ok _

theorem jsonMember_bounded (key : String) {x : Outcome String} (h : Bounded x) :
    Bounded (Value.jsonMember (.ok key) x) := by
  refine (bounded_ok key).bind fun _ _ => ?_
  split
  · exact h.bind fun v _ => bounded_ok _
  · exact bounded_error (by decide)

theorem jsonFields_bounded {fields : List (String × Outcome String)}
    (h : ∀ f ∈ fields, Bounded f.2) : Bounded (Value.jsonFields fields) := by
  refine Bounded.bind (Bounded.mapM fun member mem => ?_) fun members _ => bounded_ok _
  obtain ⟨f, hf, rfl⟩ := List.mem_map.mp mem
  exact jsonMember_bounded f.1 (h f hf)

/-- A record with a message whatever the store holds, and without fields that could fail to be
written. -/
structure Record.Presentable (x : Record) : Prop where
  message : ∀ r, ∃ m, x.message r = .ok m
  fields : ∀ s : Store, ∀ f ∈ x.fields, Bounded (s.json f.2)
  problem : x.problem = none

theorem mem_setField {name : String} {v : Value} {fields : List (String × Value)}
    {f : String × Value} (h : f ∈ setField name v fields) : f = (name, v) ∨ f ∈ fields := by
  induction fields with
  | nil => exact .inl (List.mem_singleton.mp h)
  | cons g rest ih =>
    unfold setField at h
    split at h
    · exact (List.mem_cons.mp h).imp_right (List.mem_cons_of_mem g)
    · rcases List.mem_cons.mp h with rfl | h
      · exact .inr List.mem_cons_self
      · exact (ih h).imp_right (List.mem_cons_of_mem g)

theorem mem_setFields {updates fields : List (String × Value)} {f : String × Value}
    (h : f ∈ setFields fields updates) : f ∈ updates ∨ f ∈ fields := by
  induction updates generalizing fields with
  | nil => exact .inr h
  | cons u rest ih =>
    rcases ih h with h | h
    · exact .inl (List.mem_cons_of_mem u h)
    · rcases mem_setField h with rfl | h
      · exact .inl List.mem_cons_self
      · exact .inr h

/-- The texts that every record of a structured line has. -/
def Record.texts (x : Record) (time message : String) : List String :=
  time :: levelTitle x.level :: x.logger :: message :: x.correlation.toList

/-- Without an error to show, the members are the fields of the record put over texts. -/
theorem members_eq_setFields {x : Record} (h : x.problem = none) (s : Store)
    (time message : String) :
    ∃ common : List (String × Value),
      (∀ f ∈ common, Text.isEncodable f.1 = true ∧ ∃ t ∈ x.texts time message, f.2 = .text t) ∧
      x.members s time message = .ok (setFields common x.fields) := by
  unfold Record.members
  rw [h]
  refine ⟨_, ?_, rfl⟩
  have names : ∀ n ∈ ["timestamp", "level", "logger", "message", "correlation_id"],
      Text.isEncodable n = true := by decide
  cases known : x.correlation with
  | none => simp [Record.texts, names]
  | some id =>
    dsimp only
    split <;> simp [Record.texts, names, known]

theorem Record.Presentable.structuredLine_bounded {x : Record} (h : x.Presentable) (s : Store) :
    Bounded (structuredLine s none x) := by
  refine timestamp_bounded.bind fun time _ => ?_
  obtain ⟨m, hm⟩ := h.message s.resolver
  obtain ⟨common, texts, members⟩ := members_eq_setFields h.problem s time m
  have object : Bounded (objectText s (setFields common x.fields)) := by
    refine jsonFields_bounded fun f hf => ?_
    obtain ⟨g, hg, rfl⟩ := List.mem_map.mp hf
    rcases mem_setFields hg with hg | hg
    · exact h.fields s g hg
    · obtain ⟨-, t, -, ht⟩ := texts g hg
      exact ht ▸ json_text_bounded s t
  rw [hm]
  show Bounded (x.members s time m >>= objectText s)
  rw [members]
  exact object

theorem Record.Presentable.plainLine_bounded {x : Record} (h : x.Presentable) (s : Store) :
    Bounded (plainLine s x) := by
  refine timestamp_bounded.bind fun time _ => ?_
  obtain ⟨m, hm⟩ := h.message s.resolver
  rw [hm]
  exact bounded_ok _

namespace State

theorem failure_write {line : Outcome String} {put : String → Delivery} (h : Bounded line)
    (hput : ∀ t, (put t).failure = none) : (write line put).failure = none := by
  unfold write
  split
  · exact hput _
  · exact absurd rfl h
  · rfl

theorem failure_thenTo {d next : Delivery} {wanted : Bool} (hd : d.failure = none)
    (hn : next.failure = none) : (thenTo d wanted next).failure = none := by
  unfold thenTo
  split
  · show d.failure.or next.failure = none
    rw [hd, hn]
    rfl
  · exact hd

theorem failure_notice {x : Record} (h : x.Presentable) (s : Store) :
    (notice s x).failure = none := by
  obtain ⟨m, hm⟩ := h.message s.resolver
  simp [notice, hm]

/-- No receiver fails on a presentable record, whatever the setup. -/
theorem failure_emit {x : Record} (h : x.Presentable) (l : State) (s : Store) :
    (l.emit s x).failure = none := by
  unfold emit
  split
  · split
    · have tagged : ({ x with correlation := l.correlation } : Record).Presentable :=
        ⟨h.message, h.fields, h.problem⟩
      refine failure_thenTo (failure_thenTo (failure_write ?_ fun t => rfl)
        (failure_write (tagged.structuredLine_bounded s) fun t => rfl)) (failure_notice tagged s)
      split
      · exact tagged.structuredLine_bounded s
      · exact tagged.plainLine_bounded s
    · rfl
  · rfl

end State

end Logging

theorem Builder.recordOf_presentable (before during : Builder) (c : Change) :
    (before.recordOf during c).Presentable := by
  cases c with
  | append c =>
    refine ⟨fun r => ⟨_, Logging.fill_appended r c.keyword⟩, fun s f hf => ?_, rfl⟩
    simp only [recordOf, List.mem_cons, List.not_mem_nil, or_false] at hf
    rcases hf with rfl | rfl
    · exact Logging.json_text_bounded s _
    · exact Logging.json_int_bounded s _
  | extend operator part stage =>
    refine ⟨fun r => ⟨_, Logging.fill_extended r _ operator⟩, fun s f hf => ?_, rfl⟩
    rcases List.mem_singleton.mp hf with rfl
    exact Logging.json_text_bounded s _

end SelectBuilder
