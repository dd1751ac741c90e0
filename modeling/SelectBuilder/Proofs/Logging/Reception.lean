import SelectBuilder.Proofs.Logging.Account
import SelectBuilder.Proofs.Text.Encoding

/-!
# Receiving records

Each receiver that is set up gets a record once if the record can be laid out for it. A plain line
takes no more than a message. A structured line also takes texts that can be encoded.
-/
namespace SelectBuilder.Logging

open Outcome

variable {setup : Setup} {s : Store} {x : Record} {d : Delivery}

/-- The line of a record on the console. -/
def Setup.line (setup : Setup) (s : Store) (x : Record) : Outcome String :=
  if setup.structured then structuredLine s none x else plainLine s x

/-- A record has a message, and a structured line if a receiver asks for one. -/
structure Record.Formats (setup : Setup) (s : Store) (x : Record) : Prop where
  message : ∃ m, x.message s.resolver = .ok m
  structured : setup.structured = true ∨ setup.file = true → ∃ t, structuredLine s none x = .ok t

/-- Every receiver that is set up has got the record once. -/
structure Delivered (setup : Setup) (s : Store) (x : Record) (d : Delivery) : Prop where
  console : ∃ t, setup.line s x = .ok t ∧ d.console = [t]
  file : if setup.file then ∃ t, structuredLine s none x = .ok t ∧ d.file = [t] else d.file = []
  extra : if setup.extra then
      ∃ n : Notice, n.name = x.logger ∧ x.message s.resolver = .ok n.message ∧
        n.correlation = x.correlation ∧ d.extra = [n]
    else d.extra = []
  failure : d.failure = none

/-- As many receivers get a record as are set up. -/
theorem Delivered.count (h : Delivered setup s x d) :
    d.console.length + d.file.length + d.extra.length = setup.handlerCount := by
  obtain ⟨⟨line, -, console⟩, file, extra, -⟩ := h
  have filed : d.file.length = if setup.file then 1 else 0 := by
    cases asked : setup.file with
    | true =>
      obtain ⟨t, -, file⟩ := by simpa only [asked, if_true] using file
      rw [file]
      rfl
    | false => grind
  have told : d.extra.length = if setup.extra then 1 else 0 := by
    cases asked : setup.extra with
    | true =>
      obtain ⟨n, -, -, -, extra⟩ := by simpa only [asked, if_true] using extra
      rw [extra]
      rfl
    | false => grind
  rw [console, filed, told]
  rfl

theorem timestamp_none : timestamp none = .ok "1970-01-01 00:00:00,000" := by decide +kernel

theorem objectText_isOk {members : List (String × Value)}
    (h : ∀ f ∈ members, Text.isEncodable f.1 = true ∧ ∃ t, s.json f.2 = .ok t) :
    ∃ t, objectText s members = .ok t := by
  have each : ∀ a ∈ members.map fun f => Value.jsonMember (.ok f.1) (s.json f.2),
      ∃ b, id a = .ok b := by
    intro a ha
    obtain ⟨f, hf, rfl⟩ := List.mem_map.mp ha
    obtain ⟨key, t, value⟩ := h f hf
    exact ⟨(f.1, t), by simp [Value.jsonMember, key, value, pure, Except.pure]⟩
  obtain ⟨made, all⟩ := mapM_isOk.mpr each
  refine ⟨Text.Json.object made, ?_⟩
  simp only [objectText, Value.jsonFields, Value.jsonObject, List.map_map, Function.comp_def, all,
    ok_bind]
  rfl

theorem json_text_isOk {t : String} (encodable : Text.isEncodable t = true) :
    ∃ l, s.json (.text t) = .ok l :=
  ⟨Text.Json.string t, by simp [Store.json, Value.toJson, Value.jsonString, encodable]⟩

/-- A debugging record without an error has a structured line if its texts can be encoded and its
fields have a JSON. -/
theorem structuredLine_isOk (calm : x.problem = none) (level : x.level = debugLevel) {m : String}
    (message : x.message s.resolver = .ok m)
    (texts : ∀ t ∈ x.logger :: m :: x.correlation.toList, Text.isEncodable t = true)
    (fields : ∀ f ∈ x.fields, Text.isEncodable f.1 = true ∧ ∃ t, s.json f.2 = .ok t) :
    ∃ t, structuredLine s none x = .ok t := by
  let time := "1970-01-01 00:00:00,000"
  have encodable : ∀ t ∈ x.texts time m, Text.isEncodable t = true := by
    have here : Text.isEncodable time = true := by decide
    have debug : Text.isEncodable (levelTitle debugLevel) = true := by decide
    simpa [Record.texts, here, level, debug] using texts
  obtain ⟨common, known, members⟩ := members_eq_setFields calm s time m
  simp only [structuredLine, timestamp_none, message, ok_bind]
  rw [members]
  simp only [ok_bind]
  refine objectText_isOk fun f hf => ?_
  rcases mem_setFields hf with own | shared
  · exact fields f own
  · obtain ⟨name, t, among, value⟩ := known f shared
    rw [value]
    exact ⟨name, json_text_isOk (encodable t among)⟩

theorem plainLine_isOk (message : ∃ m, x.message s.resolver = .ok m) :
    ∃ t, plainLine s x = .ok t := by
  obtain ⟨m, message⟩ := message
  simp only [plainLine, timestamp_none, message, ok_bind]
  exact ⟨_, rfl⟩

/-- A record of the builders can be laid out if its message, its correlation id and its fields can
be encoded. -/
theorem Record.Says.formats {message : String} {fields : List (String × Value)}
    (h : x.Says message fields) (calm : x.problem = none)
    (texts : ∀ t ∈ message :: x.correlation.toList, Text.isEncodable t = true)
    (json : ∀ f ∈ fields, Text.isEncodable f.1 = true ∧ ∃ t, s.json f.2 = .ok t) :
    x.Formats setup s where
  message := ⟨message, h.message _⟩
  structured _ := by
    have logger : Text.isEncodable x.logger = true := by rw [h.logger]; decide
    exact structuredLine_isOk calm h.level (h.message _)
      (List.forall_mem_cons.mpr ⟨logger, texts⟩) (h.fields ▸ json)

theorem added_formats (c : Clause) (count : Nat) {id : Option String}
    (encodable : ∀ t ∈ id, Text.isEncodable t = true) :
    ((added c.keyword count).tagged id).Formats setup s := by
  have message : Text.isEncodable ("Appended " ++ c.keyword ++ " clause") = true :=
    Text.isEncodable_of_plain (by simp [c.plain_keyword]; decide)
  have keyword := Text.isEncodable_of_plain c.plain_keyword
  refine ((says_added _ count).tagged id).formats rfl ?_ ?_
  · simpa [Record.tagged, message] using encodable
  · have names : ∀ n ∈ ["clause", "clause_count"], Text.isEncodable n = true := by decide
    intro f among
    simp only [List.mem_cons, List.not_mem_nil, or_false] at among
    rcases among with rfl | rfl
    · exact ⟨names _ (by simp), json_text_isOk keyword⟩
    · exact ⟨names _ (by simp), _, rfl⟩

theorem extended_formats (c : Clause) {operator : String} (plain : Text.marker ∉ operator.toList)
    {id : Option String} (encodable : ∀ t ∈ id, Text.isEncodable t = true) :
    ((extended c.keyword operator).tagged id).Formats setup s := by
  have message :
      Text.isEncodable ("Extended " ++ c.keyword ++ " clause with " ++ operator) = true :=
    Text.isEncodable_of_plain (by simp [c.plain_keyword, plain]; decide)
  have keyword := Text.isEncodable_of_plain c.plain_keyword
  refine ((says_extended _ operator).tagged id).formats rfl ?_ ?_
  · simpa [Record.tagged, message] using encodable
  · have name : Text.isEncodable "clause" = true := by decide
    rw [List.forall_mem_singleton]
    exact ⟨name, json_text_isOk keyword⟩

theorem shown_formats {sql : String} {dialect : Value}
    (json : ∀ f ∈ (shown sql dialect).fields, ∃ t, s.json f.2 = .ok t) {id : Option String}
    (encodable : ∀ t ∈ id, Text.isEncodable t = true) :
    ((shown sql dialect).tagged id).Formats setup s := by
  have message : Text.isEncodable "Rendered statement" = true := by decide
  have names : ∀ f ∈ (shown sql dialect).fields, Text.isEncodable f.1 = true := by
    have each : ∀ n ∈ ["sql", "dialect"], Text.isEncodable n = true := by decide
    intro f among
    exact each f.1 (List.mem_map_of_mem among)
  refine ((says_shown sql dialect).tagged id).formats rfl ?_ fun f among =>
    ⟨names f among, json f among⟩
  simpa [Record.tagged, message] using encodable

theorem Record.Formats.line (formats : x.Formats setup s) : ∃ t, setup.line s x = .ok t := by
  unfold Setup.line
  split
  · next structured => exact formats.structured (.inl structured)
  · exact plainLine_isOk formats.message

theorem thenTo_file (formats : x.Formats setup s) (t : String) :
    ∃ lines, (if setup.file then ∃ l, structuredLine s none x = .ok l ∧ lines = [l]
        else lines = []) ∧
      State.thenTo { console := [t] } setup.file
        (State.write (structuredLine s none x) fun l => { file := [l] }) =
          { console := [t], file := lines } := by
  cases asked : setup.file with
  | true =>
    obtain ⟨l, line⟩ := formats.structured (.inr asked)
    exact ⟨[l], by rw [if_pos rfl]; exact ⟨l, line, rfl⟩, by rw [line]; rfl⟩
  | false => exact ⟨[], by simp, rfl⟩

theorem thenTo_extra (formats : x.Formats setup s) (console file : List String) :
    ∃ notices, (if setup.extra then ∃ n : Notice, n.name = x.logger ∧
          x.message s.resolver = .ok n.message ∧ n.correlation = x.correlation ∧ notices = [n]
        else notices = []) ∧
      State.thenTo { console := console, file := file } setup.extra (State.notice s x) =
        { console := console, file := file, extra := notices } := by
  cases asked : setup.extra with
  | true =>
    obtain ⟨m, message⟩ := formats.message
    let n : Notice := ⟨x.logger, levelTitle x.level, m, x.correlation,
      (x.fields.map Prod.fst).mergeSort Text.precedes⟩
    have told : State.notice s x = { extra := [n] } := by simp [State.notice, message, n]
    refine ⟨[n], by rw [if_pos rfl]; exact ⟨n, rfl, message, rfl, rfl⟩, ?_⟩
    rw [told]
    show Delivery.append _ _ = _
    simp [Delivery.append]
  | false => exact ⟨[], by simp, rfl⟩

/-- A record that can be laid out for the receivers is delivered to each of them. -/
theorem deliver_delivered (formats : x.Formats setup s) :
    Delivered setup s x (State.deliver setup s x) := by
  obtain ⟨t, line⟩ := formats.line
  have written : State.deliver setup s x =
      State.thenTo (State.thenTo { console := [t] } setup.file
        (State.write (structuredLine s none x) fun l => { file := [l] })) setup.extra
        (State.notice s x) := by
    unfold State.deliver
    dsimp only
    rw [show (if setup.structured then structuredLine s none x else plainLine s x) = .ok t from line]
    rfl
  obtain ⟨lines, file, filed⟩ := thenTo_file formats t
  obtain ⟨notices, extra, told⟩ := thenTo_extra formats [t] lines
  rw [written, filed, told]
  exact ⟨⟨t, line, rfl⟩, file, extra, rfl⟩

end SelectBuilder.Logging
