import SelectBuilder.Proofs.Logging.Reception
import SelectBuilder.Proofs.Value.JsonData

/-!
# Structured lines

The structured line of a record is a JSON object on one line. It has one member for each thing that
the record says of itself and for each name of its fields, and one more for an error. A field
replaces what the record says of itself, a later field an earlier one, and the error all of them.
-/
namespace SelectBuilder.Logging

open Outcome

/-! ## Fields by their names -/

theorem lookup_setField (name : String) (v : Value) (fields : List (String × Value))
    (key : String) :
    (setField name v fields).lookup key = if key = name then some v else fields.lookup key := by
  induction fields with
  | nil => exact lookup_cons_eq_ite ..
  | cons f rest ih =>
    unfold setField
    split
    · next here =>
      rw [lookup_cons_eq_ite, lookup_cons_eq_ite, here]
      split <;> rfl
    · next later =>
      rw [lookup_cons_eq_ite, lookup_cons_eq_ite, ih]
      by_cases first : key = f.1
      · rw [if_pos first, if_pos first, if_neg (first ▸ later)]
      · rw [if_neg first, if_neg first]

/-- Of fields of one name the last one counts. -/
theorem lookup_setFields (fields updates : List (String × Value)) (key : String) :
    (setFields fields updates).lookup key =
      (updates.reverse.lookup key).or (fields.lookup key) := by
  induction updates generalizing fields with
  | nil => rfl
  | cons u rest ih =>
    have one : ([u] : List (String × Value)).lookup key = if key = u.1 then some u.2 else none :=
      lookup_cons_eq_ite ..
    calc (setFields (setField u.1 u.2 fields) rest).lookup key
        = (rest.reverse.lookup key).or (if key = u.1 then some u.2 else fields.lookup key) := by
          rw [ih, lookup_setField]
      _ = ((rest.reverse.lookup key).or ([u].lookup key)).or (fields.lookup key) := by
          rw [one, Option.or_assoc]
          split <;> rfl
      _ = ((u :: rest).reverse.lookup key).or (fields.lookup key) := by
          rw [List.reverse_cons, List.lookup_append]

theorem nodup_setField (name : String) (v : Value) {fields : List (String × Value)}
    (nodup : (fields.map Prod.fst).Nodup) : ((setField name v fields).map Prod.fst).Nodup := by
  induction fields with
  | nil => simp [setField]
  | cons f rest ih =>
    obtain ⟨apart, nodup⟩ := List.nodup_cons.mp nodup
    unfold setField
    split
    · next here => exact List.nodup_cons.mpr ⟨here ▸ apart, nodup⟩
    · next later =>
      refine List.nodup_cons.mpr ⟨fun among => ?_, ih nodup⟩
      obtain ⟨g, found, same⟩ := List.mem_map.mp among
      rcases mem_setField found with rfl | old
      · exact later same.symm
      · exact apart (same ▸ List.mem_map_of_mem old)

theorem nodup_setFields (updates : List (String × Value)) {fields : List (String × Value)}
    (nodup : (fields.map Prod.fst).Nodup) : ((setFields fields updates).map Prod.fst).Nodup := by
  induction updates generalizing fields with
  | nil => exact nodup
  | cons u rest ih => exact ih (nodup_setField u.1 u.2 nodup)

/-! ## What a record says -/

namespace Record

/-- What a record says of itself, given the text of its time and its message. -/
def own (x : Record) (time message : String) : List (String × Value) :=
  [("timestamp", .text time), ("level", .text (levelTitle x.level)), ("logger", .text x.logger),
    ("message", .text message)] ++
    (x.correlation.filter (· ≠ "")).toList.map fun id => ("correlation_id", .text id)

/-- What a record says under a key, given the report of its error as well: the error comes first,
then the last field of that name, then what the record says of itself. -/
def value? (x : Record) (time message : String) (error : Option String) (key : String) :
    Option Value :=
  (if key = "exception" then error.map Value.text else none).or
    ((x.fields.reverse.lookup key).or ((x.own time message).lookup key))

theorem nodup_own (x : Record) (time message : String) :
    ((x.own time message).map Prod.fst).Nodup := by
  unfold own
  cases x.correlation.filter (· ≠ "") <;> simp

/-- The keys under which a record says anything. -/
theorem isSome_value? (x : Record) (time message : String) (error : Option String)
    (key : String) :
    (x.value? time message error key).isSome ↔
      key ∈ ["timestamp", "level", "logger", "message"] ∨
        (key = "correlation_id" ∧ ∃ id ∈ x.correlation, id ≠ "") ∨
        key ∈ x.fields.map Prod.fst ∨ (key = "exception" ∧ error.isSome) := by
  have own : ((x.own time message).lookup key).isSome ↔
      key ∈ ["timestamp", "level", "logger", "message"] ∨
        (key = "correlation_id" ∧ ∃ id ∈ x.correlation, id ≠ "") := by
    rw [isSome_lookup]
    cases given : x.correlation with
    | none => simp [Record.own, given]
    | some id =>
      by_cases empty : id = "" <;>
        simp [Record.own, given, empty, Option.filter, or_assoc, eq_comm (a := key)]
  have fields : (x.fields.reverse.lookup key).isSome ↔ key ∈ x.fields.map Prod.fst := by
    rw [isSome_lookup]
    simp
  have error : (if key = "exception" then error.map Value.text else none).isSome ↔
      key = "exception" ∧ error.isSome := by
    split <;> simp_all
  simp only [value?, Option.isSome_or, Bool.or_eq_true, own, fields, error]
  constructor
  · rintro (shown | field | common | tag)
    exacts [.inr (.inr (.inr shown)), .inr (.inr (.inl field)), .inl common, .inr (.inl tag)]
  · rintro (common | tag | field | shown)
    exacts [.inr (.inr (.inl common)), .inr (.inr (.inr tag)), .inr (.inl field), .inl shown]

/-- The members of the object of a record, given the report of its error. -/
def written (x : Record) (time message : String) (error : Option String) :
    List (String × Value) :=
  let fields := setFields (x.own time message) x.fields
  error.elim fields fun e => setField "exception" (.text e) fields

theorem members_eq (x : Record) (s : Store) (time message : String) :
    x.members s time message = (x.problem.mapM (report s)).map (x.written time message) := by
  -- The fields are set over the same members, whatever the correlation id is.
  have same : x.members s time message =
      x.problem.elim (.ok (setFields (x.own time message) x.fields)) fun p => (report s p).map
        fun e => setField "exception" (.text e) (setFields (x.own time message) x.fields) := by
    obtain ⟨logger, level, template, args, fields, correlation, problem⟩ := x
    rcases correlation with _ | id
    · cases problem <;> rfl
    · by_cases empty : id = ""
      · subst empty
        cases problem <;> rfl
      · cases problem <;> simp [members, own, empty, Option.filter] <;> rfl
  rw [same]
  cases x.problem with
  | none => rfl
  | some p =>
    rw [Option.mapM_some]
    show (report s p).map _ = (some <$> report s p).map _
    cases report s p <;> rfl

theorem lookup_written (x : Record) (time message : String) (error : Option String) (key : String) :
    (x.written time message error).lookup key = x.value? time message error key := by
  unfold written value?
  cases error with
  | none => simp [lookup_setFields]
  | some e =>
    simp only [Option.elim_some, lookup_setField, lookup_setFields]
    split <;> simp_all

theorem nodup_written (x : Record) (time message : String) (error : Option String) :
    ((x.written time message error).map Prod.fst).Nodup := by
  have fields := nodup_setFields x.fields (x.nodup_own time message)
  cases error with
  | none => exact fields
  | some e => exact nodup_setField _ _ fields

theorem isData_written {x : Record} (data : ∀ f ∈ x.fields, f.2.isData = true)
    (time message : String) (error : Option String) :
    ∀ m ∈ x.written time message error, m.2.isData = true := by
  have fields : ∀ m ∈ setFields (x.own time message) x.fields, m.2.isData = true := by
    intro m among
    rcases mem_setFields among with field | own
    · exact data m field
    · simp only [Record.own, List.mem_append, List.mem_cons, List.not_mem_nil, or_false,
        List.mem_map] at own
      rcases own with (rfl | rfl | rfl | rfl) | ⟨id, -, rfl⟩ <;> rfl
  cases error with
  | none => exact fields
  | some e =>
    intro m among
    rcases mem_setField among with rfl | field
    · rfl
    · exact fields m field

/-- What is said is written, and nothing else. -/
theorem mem_written {x : Record} {time message : String} {error : Option String} {key : String}
    {v : Value} :
    (key, v) ∈ x.written time message error ↔ x.value? time message error key = some v := by
  rw [mem_iff_lookup (x.nodup_written time message error), lookup_written]

end Record

/-! ## Lines -/

/-- A line tells a value for each of some keys: it is one line, and it is read as an object in which
every key comes once, with its value. -/
structure Tells (line : String) (value : String → Option Value) : Prop where
  visible : ∀ c ∈ line.toList, 32 ≤ c.toNat
  reads : ∃ members : List (String × Value), (members.map Prod.fst).Nodup ∧
    Json.read? line = some (.dict (members.map fun m => (.text m.1, m.2))) ∧
    ∀ key, members.lookup key = value key

theorem timestamp_isOk {dateFormat : Option String} (dated : ∀ f ∈ dateFormat, '\x00' ∉ f.toList) :
    ∃ time, timestamp dateFormat = .ok time := by
  cases dateFormat with
  | none => exact ⟨_, timestamp_none⟩
  | some f =>
    unfold timestamp
    split
    · next f' same =>
      cases same
      split
      · exact ⟨_, timestamp_none⟩
      · have none : f.toList.contains '\x00' = false := by simpa using dated f rfl
        simp only [dateText, none]
        exact ⟨_, rfl⟩
    · next same => cases same

theorem objectText_eq_json (s : Store) (members : List (String × Value)) :
    objectText s members = s.json (.dict (members.map fun m => (.text m.1, m.2))) := by
  simp only [objectText, Value.jsonFields, Store.json, Value.toJson, Value.jsonEntries_eq_map,
    List.map_map, Function.comp_def, Value.jsonKey]

/-- The structured line of a record whose message can be made, with a date format without null
characters, an error that can be reported, if there is one, and plain data in its fields. There is
such a line if and only if all keys and all texts in their values can be encoded. It tells under
each key the error, the last field of that name or what the record says of itself, whichever comes
first. -/
theorem structured_line (s : Store) (dateFormat : Option String) (x : Record)
    (formats : ∃ m, x.message s.resolver = .ok m)
    (dated : ∀ f ∈ dateFormat, '\x00' ∉ f.toList)
    (shown : ∀ p ∈ x.problem, ∃ e, report s p = .ok e)
    (data : ∀ f ∈ x.fields, f.2.isData = true) :
    ∃ time message error, timestamp dateFormat = .ok time ∧ x.message s.resolver = .ok message ∧
      x.problem.mapM (report s) = .ok error ∧
      (∀ key, (x.value? time message error key).isSome ↔
        key ∈ ["timestamp", "level", "logger", "message"] ∨
          (key = "correlation_id" ∧ ∃ id ∈ x.correlation, id ≠ "") ∨
          key ∈ x.fields.map Prod.fst ∨ (key = "exception" ∧ x.problem.isSome)) ∧
      ((∃ line, structuredLine s dateFormat x = .ok line) ↔
        ∀ key v, x.value? time message error key = some v →
          Text.isEncodable key = true ∧ v.IsEncodable) ∧
      ∀ line, structuredLine s dateFormat x = .ok line →
        Tells line (x.value? time message error) := by
  obtain ⟨time, timed⟩ := timestamp_isOk dated
  obtain ⟨message, formats⟩ := formats
  obtain ⟨error, reported, sameSome⟩ : ∃ error, x.problem.mapM (report s) = .ok error ∧
      error.isSome = x.problem.isSome := by
    cases problem : x.problem with
    | none => exact ⟨none, rfl, rfl⟩
    | some p =>
      obtain ⟨e, report⟩ := shown p problem
      exact ⟨some e, by simp [report], rfl⟩
  have line : structuredLine s dateFormat x =
      s.json (.dict ((x.written time message error).map fun m => (.text m.1, m.2))) := by
    simp only [structuredLine, timed, formats, ok_bind, Record.members_eq, reported, Except.map,
      objectText_eq_json]
  have isData := Value.entriesAreData_texts.mpr (x.isData_written data time message error)
  have writes := Value.toJson_writes s.resolver (s.jsonWithin s.references) (.dict _) isData
  refine ⟨time, message, error, timed, formats, reported, fun key => ?_, ?_, fun l made => ?_⟩
  · rw [Record.isSome_value?, sameSome]
  · rw [line]
    refine writes.isOk.trans ?_
    rw [Value.isEncodable_dict]
    simp only [Prod.forall, Record.mem_written]
  · have spells := writes.gives l (line.symm.trans made)
    exact ⟨spells.visible, _, x.nodup_written time message error, spells.read?,
      x.lookup_written time message error⟩

/-- A record whose fields and error take the places of one another. -/
def crowded : Record where
  logger := builderName
  level := debugLevel
  template := "Took %s\n"
  args := [.text "it"]
  fields := [("level", .null), ("level", .list [.bool true, .int (-3)]),
    ("exception", .text "lost"), ("x", .dict [(.text "\"k\"", .text "\x01")])]
  correlation := some "r1"
  problem := some (.fault "ValueError" [.text "boom"])

theorem structured_line_crowded :
    ∃ line time message error, structuredLine {} (some "%Y") crowded = .ok line ∧
      Tells line (crowded.value? time message error) ∧
      crowded.value? time message error "timestamp" = some (.text "1970") ∧
      crowded.value? time message error "level" = some (.list [.bool true, .int (-3)]) ∧
      crowded.value? time message error "exception" = some (.text "ValueError: boom") := by
  have dated : ∀ f ∈ some "%Y", '\x00' ∉ f.toList := by decide
  have shown : ∀ p ∈ crowded.problem, ∃ e, report {} p = .ok e := by
    rintro p ⟨⟩
    exact ⟨"ValueError: boom", by decide +kernel⟩
  obtain ⟨time, message, error, timed, -, reported, -, -, tells⟩ :=
    structured_line {} (some "%Y") crowded ⟨"Took it\n", by decide +kernel⟩ dated shown (by decide)
  obtain ⟨line, made⟩ : ∃ line, structuredLine {} (some "%Y") crowded = .ok line :=
    isOk_iff.mp (by decide +kernel)
  have year : timestamp (some "%Y") = .ok "1970" := by decide +kernel
  have boom : crowded.problem.mapM (report {}) = .ok (some "ValueError: boom") := by decide +kernel
  cases year.symm.trans timed
  cases boom.symm.trans reported
  exact ⟨line, _, message, _, made, tells line made, rfl, rfl, rfl⟩

/-- There is no line if half of a surrogate pair stands in a text, if the date format holds a null
character, or if the error cannot be reported. -/
theorem unwritten_lines :
    structuredLine {} none ⟨rootName, debugLevel, Text.ofCodePoints [0xd800], [], [], none, none⟩ =
        .error .unencodable ∧
      structuredLine {} (some "\x00") ⟨rootName, debugLevel, "a", [], [], none, none⟩ =
        .error .wrongValue ∧
      structuredLine {} none ⟨rootName, debugLevel, "a", [], [], none, some (.fault "SyntaxError"
          [.text "m", .tuple [.text "f", .int 1, .text "x", .text "text"]])⟩ =
        .error .wrongType := by
  decide +kernel

end SelectBuilder.Logging
