import SelectBuilder.Proofs.Logging.ChangeRecord
import SelectBuilder.Proofs.Value.JsonData

/-!
# Records of finished statements

The record of a finished statement shows its text and its dialect. A dialect that is absent, a text
or other plain data can be written in any layout, so that no receiver fails on the record.
-/
namespace SelectBuilder

open Outcome

namespace Value

/-- A dialect as it is meant to be: a name, or none at all. -/
def IsDialect (v : Value) : Prop := v.isNull ∨ v.isText

instance (v : Value) : Decidable v.IsDialect := inferInstanceAs (Decidable (_ ∨ _))

/-- A value that can be shown and that no layout fails to write, unless its texts cannot be
encoded. -/
structure Presentable (v : Value) : Prop where
  quoted : ∀ name : Reference → Outcome String, ∃ t, v.quotedForm name = .ok t
  json : ∀ s : Store, Bounded (s.json v)

theorem IsDialect.presentable {v : Value} (h : v.IsDialect) : v.Presentable := by
  cases v with
  | null => exact ⟨fun _ => ⟨_, rfl⟩, fun _ => bounded_ok _⟩
  | text t => exact ⟨fun _ => ⟨_, rfl⟩, fun s => Logging.json_text_bounded s t⟩
  | joinType t => exact ⟨fun _ => ⟨_, rfl⟩, fun s => Logging.json_text_bounded s t.word⟩
  | direction d => exact ⟨fun _ => ⟨_, rfl⟩, fun s => Logging.json_text_bounded s d.word⟩
  | _ => rcases h with h | h <;> cases h

/-! ### Plain data -/

theorem exists_enclosed (left right : String) {items : List (Outcome String)}
    (each : ∀ x ∈ items, ∃ t, x = .ok t) : ∃ t, enclosed left right items = .ok t := by
  obtain ⟨ts, all⟩ : ∃ ts, items.mapM id = .ok ts := mapM_isOk.mpr each
  exact ⟨_, by rw [enclosed, all]; rfl⟩

theorem quotedEntries_eq_map (name : Reference → Outcome String) (es : List (Value × Value)) :
    quotedEntries name es =
      es.map fun e => entryText (e.1.quotedForm name) (e.2.quotedForm name) := by
  induction es with
  | nil => rfl
  | cons e rest ih => simp [quotedEntries, ih]

theorem exists_quotedForm_of_isData (name : Reference → Outcome String) {v : Value}
    (h : v.isData = true) : ∃ t, v.quotedForm name = .ok t := by
  refine data_induction (motive := fun v => ∃ t, v.quotedForm name = .ok t) ⟨_, rfl⟩
    (fun _ => ⟨_, rfl⟩) (fun _ => ⟨_, rfl⟩) (fun _ => ⟨_, rfl⟩) (fun items each => ?list)
    (fun entries each => ?dict) v h
  case list =>
    rw [quotedForm, quotedForms_eq_map]
    exact exists_enclosed _ _ (List.forall_mem_map.mpr each)
  case dict =>
    rw [quotedForm, quotedEntries_eq_map]
    refine exists_enclosed _ _ (List.forall_mem_map.mpr fun e among => ?_)
    obtain ⟨⟨key, text⟩, t, shown⟩ := each e among
    exact ⟨_, by rw [text, shown]; rfl⟩

theorem json_bounded_of_isData (s : Store) {v : Value} (h : v.isData = true) :
    Bounded (s.json v) := by
  refine data_induction (motive := fun v => Bounded (s.json v)) (bounded_ok _)
    (fun _ => bounded_ok _) (fun _ => bounded_ok _) (Logging.json_text_bounded s)
    (fun items each => ?list) (fun entries each => ?dict) v h
  case list =>
    rw [Store.json, toJson, jsonItems_eq_map]
    exact .bind (.mapM (List.forall_mem_map.mpr each)) fun _ _ => bounded_ok _
  case dict =>
    rw [Store.json, toJson, jsonEntries_eq_map]
    refine .bind (.mapM (List.forall_mem_map.mpr fun e among => ?_)) fun _ _ => bounded_ok _
    obtain ⟨⟨key, text⟩, bounded⟩ := each e among
    rw [text]
    exact Logging.jsonMember_bounded key bounded

theorem presentable_of_isData {v : Value} (h : v.isData = true) : v.Presentable :=
  ⟨fun name => exists_quotedForm_of_isData name h, fun s => json_bounded_of_isData s h⟩

end Value

/-- The record of a finished statement. -/
def Logging.shown (sql : String) (dialect : Value) : Logging.Record where
  logger := builderName
  level := debugLevel
  template := "Rendered statement"
  fields := [("sql", .text sql), ("dialect", dialect)]

theorem Logging.shown_presentable (sql : String) {dialect : Value} (h : dialect.Presentable) :
    (shown sql dialect).Presentable := by
  refine ⟨fun r => ⟨_, rfl⟩, fun s f hf => ?_, rfl⟩
  simp only [shown, List.mem_cons, List.not_mem_nil, or_false] at hf
  rcases hf with rfl | rfl
  · exact json_text_bounded s sql
  · exact h.json s

namespace Store

variable {s : Store}

/-- All dialects of the configurations are as they are meant to be. -/
def HasDialects (s : Store) : Prop := ∀ c ∈ s.configs, c.dialect.IsDialect

instance (s : Store) : Decidable s.HasDialects :=
  inferInstanceAs (Decidable (∀ c ∈ s.configs, c.dialect.IsDialect))

/-- All dialects of the configurations are as they are meant to be, or other plain data. -/
def HasPlainDialects (s : Store) : Prop :=
  ∀ c ∈ s.configs, c.dialect.IsDialect ∨ c.dialect.isData

instance (s : Store) : Decidable s.HasPlainDialects :=
  inferInstanceAs (Decidable (∀ c ∈ s.configs, c.dialect.IsDialect ∨ c.dialect.isData))

/-- The dialect of a builder is one of those of the configurations, or absent. -/
theorem forall_dialect_configOf {P : Value → Prop} (null : P .null)
    (h : ∀ c ∈ s.configs, P c.dialect) (b : Builder) : P (s.configOf b).dialect := by
  unfold Store.configOf
  cases found : s.configs[b.config]? with
  | some c => simpa [List.getD, found] using h c (List.mem_of_getElem? found)
  | none => simpa [List.getD, found] using null

theorem HasDialects.configOf (h : s.HasDialects) (b : Builder) :
    (s.configOf b).dialect.IsDialect :=
  forall_dialect_configOf (.inl rfl) h b

theorem HasPlainDialects.configOf (h : s.HasPlainDialects) (b : Builder) :
    (s.configOf b).dialect.Presentable :=
  (forall_dialect_configOf (P := fun v => v.IsDialect ∨ v.isData) (.inr rfl) h b).elim
    Value.IsDialect.presentable Value.presentable_of_isData

theorem build_presentable (dialects : s.HasDialects) {id : Nat} {rendered : Rendered}
    {report : Report} (h : s.build id = .ok (rendered, report)) : report.record.Presentable := by
  obtain ⟨b, -, h⟩ := bind_eq_ok.mp h
  obtain ⟨sql, -, h⟩ := bind_eq_ok.mp h
  cases h
  exact Logging.shown_presentable sql (dialects.configOf b).presentable

end Store

end SelectBuilder
