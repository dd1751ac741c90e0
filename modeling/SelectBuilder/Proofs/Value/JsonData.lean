import Mathlib.Data.List.Basic
import SelectBuilder.Proofs.Lists
import SelectBuilder.Proofs.Number.Digits
import SelectBuilder.Proofs.Outcome
import SelectBuilder.Proofs.Value.JsonReader

/-!
# Data that is written as JSON

Plain data is nothing, truth values, whole numbers and texts, and lists and dictionaries of such,
with texts for keys. It is written as JSON if and only if all texts in it can be encoded. What is
written stands on one line and is read back as the same data.
-/
namespace SelectBuilder

namespace Json

open Text.Json

theorem skip_cons {c : Char} (solid : isBlank c = false) (rest : List Char) :
    skip (c :: rest) = c :: rest := by
  simp [skip, solid]

/-! ## Texts that spell a value -/

/-- A closing character or a comma follows, or nothing. -/
def Stops (rest : List Char) : Prop := ∀ c ∈ rest.head?, c ∈ [',', ']', '\x7d']

/-- A text stands on one line and is read as a value, whatever stops it. -/
structure Spells (v : Value) (t : String) : Prop where
  visible : ∀ c ∈ t.toList, 32 ≤ c.toNat
  opens : ∃ c cs, t.toList = c :: cs ∧ isBlank c = false ∧ c ≠ ']'
  reads : ∀ n rest, t.toList.length ≤ n → Stops rest →
    readValue (n + 1) (t.toList ++ rest) = some (v, rest)

/-- A spelled text is read as a whole. -/
theorem Spells.read? {v : Value} {t : String} (h : Spells v t) : read? t = some v := by
  have reads := h.reads t.toList.length [] (Nat.le_refl _) nofun
  rw [List.append_nil] at reads
  rw [Json.read?, reads]
  rfl

theorem visible_of_all {cs : List Char} (h : cs.all (fun c => decide (32 ≤ c.toNat)) = true) :
    ∀ c ∈ cs, 32 ≤ c.toNat := by
  simpa using h

theorem visible_append {t u : String} (ht : ∀ c ∈ t.toList, 32 ≤ c.toNat)
    (hu : ∀ c ∈ u.toList, 32 ≤ c.toNat) : ∀ c ∈ (t ++ u).toList, 32 ≤ c.toNat := by
  simp only [String.toList_append, List.mem_append]
  rintro c (among | among)
  · exact ht c among
  · exact hu c among

theorem spells_null : Spells .null "null" where
  visible := visible_of_all (by decide)
  opens := ⟨'n', _, rfl, by decide, by decide⟩
  reads _ _ _ _ := rfl

theorem spells_bool (b : Bool) : Spells (.bool b) (Value.jsonBool b) := by
  have visible : ∀ c ∈ (Value.jsonBool b).toList, 32 ≤ c.toNat :=
    visible_of_all (by cases b <;> decide)
  cases b with
  | true => exact ⟨visible, ⟨'t', _, rfl, by decide, by decide⟩, fun _ _ _ _ => rfl⟩
  | false => exact ⟨visible, ⟨'f', _, rfl, by decide, by decide⟩, fun _ _ _ _ => rfl⟩

/-! ### Whole numbers -/

theorem Stops.takeWhile_isDigit {rest : List Char} (stops : Stops rest) :
    rest.takeWhile Char.isDigit = [] := by
  cases rest with
  | nil => rfl
  | cons c rest =>
    have none : [',', ']', '\x7d'].all (fun d => !d.isDigit) = true := by decide
    have apart : (!c.isDigit) = true := List.all_eq_true.mp none c (stops c rfl)
    rw [Bool.not_eq_true'] at apart
    simp [apart]

theorem Stops.dropWhile_isDigit {rest : List Char} (stops : Stops rest) :
    rest.dropWhile Char.isDigit = rest := by
  simpa only [stops.takeWhile_isDigit, List.nil_append] using
    List.takeWhile_append_dropWhile (p := Char.isDigit) (l := rest)

theorem readWhole_digits (n : Nat) {rest : List Char} (stops : Stops rest) :
    readWhole (Number.digits n ++ rest) = some (Number.digits n, rest) := by
  have all : ∀ c ∈ Number.digits n, c.isDigit = true := fun _ => Number.isDigit_of_mem_digits
  have some : Number.digits n ≠ [] := Nat.toDigits_ne_nil
  rcases Nat.eq_zero_or_pos n with rfl | positive
  · rfl
  · rw [readWhole, List.head?_append_of_ne_nil _ some, if_neg (Number.head?_digits positive),
      List.takeWhile_append_of_pos all, List.dropWhile_append_of_pos all,
      stops.takeWhile_isDigit, stops.dropWhile_isDigit, List.append_nil]
    simp [some]

theorem readUnsigned_digits (negative : Bool) (n : Nat) {rest : List Char} (stops : Stops rest) :
    readUnsigned negative (Number.digits n ++ rest) =
      some (.int (if negative then -n else n), rest) := by
  have places : readPlaces rest = some ([], rest) := by
    cases rest with
    | nil => rfl
    | cons c rest =>
      have point : c ≠ '.' := fun same => absurd (same ▸ stops c rfl) (by decide)
      unfold readPlaces
      split
      · next same => exact absurd (List.cons.inj same).1 point
      · rfl
  have power : readPower rest = some (none, rest) := by
    cases rest with
    | nil => rfl
    | cons c rest =>
      have letter : ¬(c = 'e' ∨ c = 'E') := by
        rintro (rfl | rfl) <;> exact absurd (stops _ rfl) (by decide)
      simp [readPower, letter]
  simp [readUnsigned, readWhole_digits n stops, places, power, Number.valueOf_digits]

/-- Only a number begins with a digit or a sign. -/
theorem readValue_number {c : Char} (begins : c.isDigit = true ∨ c = '-') (n : Nat)
    (cs : List Char) : readValue (n + 1) (c :: cs) = readNumber (c :: cs) := by
  have apart : ∀ d ∈ [' ', '\n', '\r', '\t', '"', '[', '\x7b', 't', 'f', 'n'], c ≠ d := by
    have none : [' ', '\n', '\r', '\t', '"', '[', '\x7b', 't', 'f', 'n'].all
        (fun d => !(d.isDigit || d == '-')) = true := by decide
    rintro d among rfl
    have apart : (!(c.isDigit || c == '-')) = true := List.all_eq_true.mp none c among
    simp only [Bool.not_eq_true', Bool.or_eq_false_iff, beq_eq_false_iff_ne] at apart
    exact begins.elim (by simp [apart.1]) apart.2
  have solid : isBlank c = false := by simp [isBlank, apart]
  rw [readValue, skip_cons solid]
  split
  all_goals first
    | rfl
    | next same => exact absurd (List.cons.inj same).1 (apart _ (by simp))

theorem visible_of_isDigit {c : Char} (digit : c.isDigit = true) : 32 ≤ c.toNat := by
  have bounds : 48 ≤ c.toNat ∧ c.toNat ≤ 57 := by
    simpa [Char.isDigit, UInt32.le_iff_toNat_le] using digit
  omega

theorem isBlank_of_isDigit {c : Char} (digit : c.isDigit = true) : isBlank c = false := by
  by_contra blank
  simp only [isBlank, Bool.not_eq_false, Bool.or_eq_true, beq_iff_eq] at blank
  rcases blank with ((rfl | rfl) | rfl) | rfl <;> cases digit

theorem spells_nat (n : Nat) : Spells (.int n) (Number.natText n) := by
  have text : (Number.natText n).toList = Number.digits n := String.toList_ofList
  obtain ⟨c, cs, begins⟩ := List.exists_cons_of_ne_nil
    (show Number.digits n ≠ [] from Nat.toDigits_ne_nil)
  have digit : c.isDigit = true := Number.isDigit_of_mem_digits (begins ▸ List.mem_cons_self)
  refine ⟨fun d among => ?_, ⟨c, cs, text.trans begins, isBlank_of_isDigit digit, ?_⟩,
    fun m rest _ stops => ?_⟩
  · exact visible_of_isDigit (Number.isDigit_of_mem_digits (text ▸ among))
  · rintro rfl
    cases digit
  · have unsigned : readNumber (c :: (cs ++ rest)) = readUnsigned false (c :: (cs ++ rest)) := by
      unfold readNumber
      split
      · next same =>
        rw [(List.cons.inj same).1] at digit
        cases digit
      · rfl
    rw [text, begins, List.cons_append, readValue_number (.inl digit), unsigned, ← List.cons_append,
      ← begins, readUnsigned_digits false n stops]
    rfl

theorem spells_int (i : Int) : Spells (.int i) (Number.intText i) := by
  cases i with
  | ofNat n => exact spells_nat n
  | negSucc n =>
    have text : (Number.intText (.negSucc n)).toList = '-' :: Number.digits (n + 1) := by
      simp [Number.intText, Number.natText, String.toList_append]
    refine ⟨?_, ⟨'-', _, text, by decide, by decide⟩, fun m rest _ stops => ?_⟩
    · rw [text]
      exact List.forall_mem_cons.mpr
        ⟨by decide, fun _ among => visible_of_isDigit (Number.isDigit_of_mem_digits among)⟩
    · have signed : readNumber ('-' :: (Number.digits (n + 1) ++ rest)) =
        readUnsigned true (Number.digits (n + 1) ++ rest) := rfl
      rw [text, List.cons_append, readValue_number (.inr rfl), signed,
        readUnsigned_digits true (n + 1) stops]
      rfl

/-! ### Texts -/

theorem length_le_flatMap_escape (cs : List Char) : cs.length ≤ (cs.flatMap escape).length := by
  induction cs with
  | nil => exact Nat.le_refl 0
  | cons c cs ih =>
    have one : 0 < (escape c).length := by
      unfold escape
      split
      case h_8 => split <;> simp
      all_goals simp
    simp only [List.flatMap_cons, List.length_cons, List.length_append]
    omega

theorem visible_escape (c : Char) : ∀ d ∈ escape c, 32 ≤ d.toNat := by
  unfold escape
  split
  case h_8 =>
    split
    · next control =>
      have each : ∀ n < 32, ('\\' :: 'u' :: Text.hexadecimal 4 n).all
          (fun d => decide (32 ≤ d.toNat)) = true := by decide
      exact visible_of_all (each c.toNat control)
    · next plain => simpa using plain
  all_goals exact visible_of_all (by decide)

theorem spells_text (s : String) : Spells (.text s) (string s) := by
  have text : (string s).toList = '"' :: (s.toList.flatMap escape ++ ['"']) := by
    simp [string, stringChars]
  refine ⟨?_, ⟨'"', _, text, by decide, by decide⟩, fun n rest enough _ => ?_⟩
  · rw [text]
    refine List.forall_mem_cons.mpr ⟨by decide, fun c among => ?_⟩
    rcases List.mem_append.mp among with inside | last
    · obtain ⟨d, -, written⟩ := List.mem_flatMap.mp inside
      exact visible_escape d c written
    · rw [List.mem_singleton.mp last]
      decide
  · have short : s.toList.length < n := by
      have longer := length_le_flatMap_escape s.toList
      rw [text] at enough
      simp only [List.length_cons, List.length_append, List.length_nil] at enough
      omega
    have read := readChars_string s.toList short rest
    rw [text, List.cons_append, List.append_assoc, List.singleton_append, readValue,
      skip_cons (by decide)]
    simp [read]

/-! ### Collections -/

theorem length_intercalate (ts : List String) :
    ts.length ≤ (String.intercalate "," ts).toList.length + 1 ∧
      ∀ t ∈ ts, t.toList.length ≤ (String.intercalate "," ts).toList.length := by
  induction ts with
  | nil => simp
  | cons t ts ih =>
    cases ts with
    | nil => simp
    | cons u ts =>
      have comma : ",".toList.length = 1 := rfl
      simp only [String.intercalate_cons_cons, String.toList_append, List.length_append, comma]
      refine ⟨?_, List.forall_mem_cons.mpr ⟨by omega, fun s among => ?_⟩⟩
      · have := ih.1
        simp only [List.length_cons] at this ⊢
        omega
      · have := ih.2 s among
        omega

theorem visible_intercalate {ts : List String} (each : ∀ t ∈ ts, ∀ c ∈ t.toList, 32 ≤ c.toNat) :
    ∀ c ∈ (String.intercalate "," ts).toList, 32 ≤ c.toNat := by
  induction ts with
  | nil => simp
  | cons t ts ih =>
    obtain ⟨first, others⟩ := List.forall_mem_cons.mp each
    cases ts with
    | nil => simpa using first
    | cons u ts =>
      rw [String.intercalate_cons_cons]
      exact visible_append (visible_append first (visible_of_all (by decide))) (ih others)

theorem intercalate_begins {t : String} {c : Char} {cs : List Char} (begins : t.toList = c :: cs)
    (ts : List String) : ∃ more, (String.intercalate "," (t :: ts)).toList = c :: more := by
  cases ts with
  | nil => exact ⟨cs, by simpa using begins⟩
  | cons u ts =>
    simp only [String.intercalate_cons_cons, String.toList_append, begins, List.cons_append]
    exact ⟨_, rfl⟩

/-- What an item is read from can be read between commas. -/
theorem readSequence_intercalate {α : Type} {item : List Char → Option (α × List Char)}
    {close : Char} (closes : close = ']' ∨ close = '\x7d') {as : List α} {ts : List String}
    (each : List.Forall₂
      (fun a t => ∀ rest, Stops rest → item (t.toList ++ rest) = some (a, rest)) as ts)
    (some : ts ≠ []) {n : Nat} (enough : ts.length ≤ n) (rest : List Char) :
    readSequence item close n ((String.intercalate "," ts).toList ++ close :: rest) =
      Option.some (as, rest) := by
  induction each generalizing n with
  | nil => exact absurd rfl some
  | @cons a t as ts first others ih =>
    obtain ⟨n, rfl⟩ := Nat.exists_eq_succ_of_ne_zero (Nat.ne_of_gt (Nat.zero_lt_of_lt enough))
    cases others with
    | nil =>
      have stops : Stops (close :: rest) := by
        rintro c ⟨⟩
        rcases closes with rfl | rfl <;> decide
      rw [String.intercalate_singleton, readSequence, first _ stops]
      rcases closes with rfl | rfl <;> rfl
    | @cons b u bs us second others =>
      have stops (rest : List Char) : Stops (',' :: rest) := by
        rintro c ⟨⟩
        decide
      have enough : (u :: us).length ≤ n := by simpa using enough
      have text : (String.intercalate "," (t :: u :: us)).toList ++ close :: rest =
          t.toList ++ ',' :: ((String.intercalate "," (u :: us)).toList ++ close :: rest) := by
        simp [String.intercalate_cons_cons, String.toList_append]
      rw [text, readSequence, first _ (stops _)]
      simp only [bind, Option.bind_some, skip_cons (show isBlank ',' = false by decide)]
      rw [ih (by simp) enough]
      rfl

/-- What is written between commas is read, whether it is anything or nothing. -/
theorem readItems_intercalate {α : Type} {item : List Char → Option (α × List Char)} {close : Char}
    (closes : close = ']' ∨ close = '\x7d') {as : List α} {ts : List String}
    (each : List.Forall₂
      (fun a t => ∀ rest, Stops rest → item (t.toList ++ rest) = some (a, rest)) as ts)
    (opens : ∀ t ∈ ts, ∃ c cs, t.toList = c :: cs ∧ isBlank c = false ∧ c ≠ close)
    {n : Nat} (enough : ts.length ≤ n) (rest : List Char) :
    readItems item close n ((String.intercalate "," ts).toList ++ close :: rest) =
      some (as, rest) := by
  cases ts with
  | nil =>
    cases each
    have solid : isBlank close = false := by rcases closes with rfl | rfl <;> rfl
    rw [readItems, String.intercalate_nil]
    simp [skip_cons solid]
  | cons t ts =>
    obtain ⟨c, cs, begins, solid, inside⟩ := opens t List.mem_cons_self
    obtain ⟨more, begins⟩ := intercalate_begins begins ts
    have read := readSequence_intercalate closes each (by simp) enough rest
    rw [begins, List.cons_append] at read ⊢
    simp only [readItems, skip_cons solid, if_neg inside, read]

theorem spells_list {vs : List Value} {ts : List String} (each : List.Forall₂ Spells vs ts) :
    Spells (.list vs) (array ts) := by
  have text : (array ts).toList = '[' :: ((String.intercalate "," ts).toList ++ [']']) := by
    simp [array, String.toList_append]
  have spelled : ∀ t ∈ ts, ∃ v, Spells v t := fun t => exists_of_forall₂ each
  refine ⟨?_, ⟨'[', _, text, by decide, by decide⟩, fun n rest enough _ => ?_⟩
  · have inside := visible_intercalate fun t among => (spelled t among).choose_spec.visible
    exact visible_append (visible_append (visible_of_all (by decide)) inside)
      (visible_of_all (by decide))
  · obtain ⟨count, short⟩ := length_intercalate ts
    simp only [text, List.length_cons, List.length_append, List.length_nil] at enough
    obtain ⟨n, rfl⟩ := Nat.exists_eq_succ_of_ne_zero (show n ≠ 0 by omega)
    have items : List.Forall₂ (fun v t => ∀ rest, Stops rest →
        readValue (n + 1) (t.toList ++ rest) = some (v, rest)) vs ts :=
      forall₂_imp_of_mem each fun v t among spells rest stops =>
        spells.reads n rest (by have := short t among; omega) stops
    have read := readItems_intercalate (.inl rfl) items
      (fun t among => (spelled t among).choose_spec.opens) (by omega) (n := n + 1) rest
    have opened (cs : List Char) : readValue (n + 1 + 1) ('[' :: cs) =
      (readItems (readValue (n + 1)) ']' (n + 1) cs).map fun p => (.list p.1, p.2) := rfl
    rw [text, List.cons_append, List.append_assoc, List.singleton_append, opened, read]
    rfl

theorem toList_member (key value : String) :
    (member key value).toList =
      '"' :: (key.toList.flatMap escape ++ '"' :: ':' :: value.toList) := by
  simp [member, string, stringChars, String.toList_append]

/-- A member of an object is a text, a colon and a value. -/
theorem readMember_member {key value : String} {v : Value} (spells : Spells v value) {n : Nat}
    (enough : (member key value).toList.length ≤ n) {rest : List Char} (stops : Stops rest) :
    readMember (n + 1) (readValue (n + 1)) ((member key value).toList ++ rest) =
      some ((.text key, v), rest) := by
  have longer := length_le_flatMap_escape key.toList
  simp only [toList_member, List.length_cons, List.length_append] at enough
  have name := readChars_string key.toList (n := n + 1) (by omega) (':' :: (value.toList ++ rest))
  have read := spells.reads n rest (by omega) stops
  rw [toList_member, List.cons_append, List.append_assoc, List.cons_append, List.cons_append,
    readMember, skip_cons (by decide)]
  simp only [name, bind, Option.bind_some, skip_cons (show isBlank ':' = false by decide), read]
  simp [String.ofList_toList]

theorem visible_member {key value : String} {v : Value} (spells : Spells v value) :
    ∀ c ∈ (member key value).toList, 32 ≤ c.toNat :=
  visible_append (visible_append (spells_text key).visible (visible_of_all (by decide)))
    spells.visible

theorem spells_dict {entries : List (Value × Value)} {members : List (String × String)}
    (each : List.Forall₂ (fun e m => e.1 = .text m.1 ∧ Spells e.2 m.2) entries members) :
    Spells (.dict entries) (object members) := by
  let ts := members.map fun m => member m.1 m.2
  have text : (object members).toList =
      '\x7b' :: ((String.intercalate "," ts).toList ++ ['\x7d']) := by
    simp [object, String.toList_append, ts]
  have spelled : ∀ t ∈ ts, ∃ key v value, t = member key value ∧ Spells v value := by
    intro t among
    obtain ⟨m, hm, rfl⟩ := List.mem_map.mp among
    obtain ⟨e, -, spells⟩ := exists_of_forall₂ each hm
    exact ⟨_, _, _, rfl, spells⟩
  refine ⟨?_, ⟨'\x7b', _, text, by decide, by decide⟩, fun n rest enough _ => ?_⟩
  · have inside : ∀ t ∈ ts, ∀ c ∈ t.toList, 32 ≤ c.toNat := by
      intro t among
      obtain ⟨key, v, value, rfl, spells⟩ := spelled t among
      exact visible_member spells
    exact visible_append (visible_append (visible_of_all (by decide)) (visible_intercalate inside))
      (visible_of_all (by decide))
  · obtain ⟨count, short⟩ := length_intercalate ts
    simp only [text, List.length_cons, List.length_append, List.length_nil] at enough
    obtain ⟨n, rfl⟩ := Nat.exists_eq_succ_of_ne_zero (show n ≠ 0 by omega)
    have items : List.Forall₂ (fun e t => ∀ rest, Stops rest →
        readMember (n + 1) (readValue (n + 1)) (t.toList ++ rest) = some (e, rest)) entries ts := by
      refine List.forall₂_map_right_iff.mpr (forall₂_imp_of_mem each ?_)
      rintro ⟨k, v⟩ m among ⟨rfl, spells⟩ rest stops
      have fits := short (member m.1 m.2) (List.mem_map_of_mem among)
      exact readMember_member spells (by omega) stops
    have opens : ∀ t ∈ ts, ∃ c cs, t.toList = c :: cs ∧ isBlank c = false ∧ c ≠ '\x7d' := by
      intro t among
      obtain ⟨key, v, value, rfl, -⟩ := spelled t among
      exact ⟨'"', _, toList_member key value, by decide, by decide⟩
    have read := readItems_intercalate (.inr rfl) items opens (n := n + 1) (by omega) rest
    have opened (cs : List Char) : readValue (n + 1 + 1) ('\x7b' :: cs) =
      (readItems (readMember (n + 1) (readValue (n + 1))) '\x7d' (n + 1) cs).map
        fun p => (.dict p.1, p.2) := rfl
    rw [text, List.cons_append, List.append_assoc, List.singleton_append, opened, read]
    rfl

end Json

namespace Outcome

variable {α β : Type} {x : Outcome α} {p : Prop} {right : α → Prop}

/-- The outcome succeeds if and only if something holds, and then its result is right. -/
structure RightIf (x : Outcome α) (p : Prop) (right : α → Prop) : Prop where
  isOk : (∃ a, x = .ok a) ↔ p
  gives : Gives right x

theorem rightIf_ok {a : α} (h : right a) : RightIf (.ok a) True right :=
  ⟨iff_of_true ⟨a, rfl⟩ trivial, gives_ok h⟩

theorem rightIf_guard {a : α} {e : Failure} [Decidable p] (h : p → right a) :
    RightIf (if p then .ok a else .error e) p right := by
  split
  · next holds => exact ⟨iff_of_true ⟨a, rfl⟩ holds, gives_ok (h holds)⟩
  · next fails => exact ⟨iff_of_false nofun fails, gives_error e⟩

theorem RightIf.congr {q : Prop} (h : RightIf x p right) (same : p ↔ q) : RightIf x q right :=
  ⟨h.isOk.trans same, h.gives⟩

theorem RightIf.map (h : RightIf x p right) {f : α → β} {right' : β → Prop}
    (keeps : ∀ a, right a → right' (f a)) : RightIf (x.map f) p right' := by
  refine ⟨Iff.trans ?_ h.isOk, fun b made => ?_⟩
  · cases x <;> simp [Except.map]
  · obtain ⟨a, known, rfl⟩ := map_eq_ok.mp made
    exact keeps a (h.gives a known)

theorem RightIf.bind {q : Prop} {f : α → Outcome β} {right' : β → Prop} (h : RightIf x p right)
    (next : ∀ a, right a → RightIf (f a) q right') : RightIf (x >>= f) (p ∧ q) right' := by
  cases x with
  | ok a =>
    have holds : p := h.isOk.mp ⟨a, rfl⟩
    exact (next a (h.gives a rfl)).congr (by simp [holds])
  | error e =>
    have fails : ¬p := fun holds => by cases (h.isOk.mpr holds).choose_spec
    exact ⟨iff_of_false nofun fun both => fails both.1, gives_error e⟩

theorem RightIf.mapM {f : α → Outcome β} {P : α → Prop} {R : α → β → Prop} {items : List α}
    (each : ∀ a ∈ items, RightIf (f a) (P a) (R a)) :
    RightIf (items.mapM f) (∀ a ∈ items, P a) (List.Forall₂ R items) := by
  induction items with
  | nil => exact (rightIf_ok .nil).congr (by simp)
  | cons a rest ih =>
    obtain ⟨first, others⟩ := List.forall_mem_cons.mp each
    rw [List.mapM_cons]
    refine (first.bind fun b hb => (ih others).map fun bs hbs => .cons hb hbs).congr ?_
    simp

end Outcome

namespace Value

open Outcome Json

mutual

/-- Nothing, truth values, whole numbers and texts, and lists and dictionaries of such, with texts
for keys. -/
def isData : Value → Bool
  | null => true
  | bool _ => true
  | int _ => true
  | text _ => true
  | list items => areData items
  | dict entries => entriesAreData entries
  | _ => false

def areData : List Value → Bool
  | [] => true
  | v :: rest => v.isData && areData rest

def entriesAreData : List (Value × Value) → Bool
  | [] => true
  | (text _, v) :: rest => v.isData && entriesAreData rest
  | _ => false

end

mutual

/-- The texts in plain data. -/
def dataTexts : Value → List String
  | text s => [s]
  | list items => itemTexts items
  | dict entries => entryTexts entries
  | _ => []

def itemTexts : List Value → List String
  | [] => []
  | v :: rest => v.dataTexts ++ itemTexts rest

def entryTexts : List (Value × Value) → List String
  | [] => []
  | (k, v) :: rest => k.dataTexts ++ v.dataTexts ++ entryTexts rest

end

/-- All texts in plain data can be encoded. -/
def IsEncodable (v : Value) : Prop := ∀ t ∈ v.dataTexts, Text.isEncodable t = true

theorem forall_mem_itemTexts {P : String → Prop} {vs : List Value} :
    (∀ t ∈ itemTexts vs, P t) ↔ ∀ v ∈ vs, ∀ t ∈ v.dataTexts, P t := by
  induction vs with
  | nil => simp [itemTexts]
  | cons v rest ih => rw [itemTexts, List.forall_mem_append, ih, List.forall_mem_cons]

theorem forall_mem_entryTexts {P : String → Prop} {es : List (Value × Value)} :
    (∀ t ∈ entryTexts es, P t) ↔
      ∀ e ∈ es, (∀ t ∈ e.1.dataTexts, P t) ∧ ∀ t ∈ e.2.dataTexts, P t := by
  induction es with
  | nil => simp [entryTexts]
  | cons e rest ih =>
    rw [entryTexts, List.forall_mem_append, List.forall_mem_append, ih, List.forall_mem_cons]

theorem areData_iff {vs : List Value} : areData vs = true ↔ ∀ v ∈ vs, v.isData = true := by
  induction vs with
  | nil => simp [areData]
  | cons v rest ih => rw [areData, Bool.and_eq_true, ih, List.forall_mem_cons]

theorem exists_text_of_entriesAreData {es : List (Value × Value)} (h : entriesAreData es = true) :
    ∀ e ∈ es, (∃ s, e.1 = text s) ∧ e.2.isData = true := by
  induction es with
  | nil => nofun
  | cons e rest ih =>
    obtain ⟨k, v⟩ := e
    cases k with
    | text s =>
      obtain ⟨first, others⟩ := Bool.and_eq_true_iff.mp h
      exact List.forall_mem_cons.mpr ⟨⟨⟨s, rfl⟩, first⟩, ih others⟩
    | _ => cases h

theorem entriesAreData_texts {members : List (String × Value)} :
    entriesAreData (members.map fun m => (text m.1, m.2)) = true ↔
      ∀ m ∈ members, m.2.isData = true := by
  induction members with
  | nil => simp [entriesAreData]
  | cons m rest ih => simp [entriesAreData, ih]

theorem isEncodable_dict {members : List (String × Value)} :
    (dict (members.map fun m => (text m.1, m.2))).IsEncodable ↔
      ∀ m ∈ members, Text.isEncodable m.1 = true ∧ m.2.IsEncodable := by
  unfold IsEncodable
  simp only [dataTexts, forall_mem_entryTexts, List.forall_mem_map, List.forall_mem_singleton]

/-- What holds of the parts of plain data holds of all plain data. -/
theorem data_induction {motive : Value → Prop} (null : motive null) (bool : ∀ b, motive (bool b))
    (int : ∀ i, motive (int i)) (text : ∀ s, motive (text s))
    (list : ∀ items, (∀ v ∈ items, motive v) → motive (list items))
    (dict : ∀ entries, (∀ e ∈ entries, (∃ s, e.1 = .text s) ∧ motive e.2) → motive (dict entries))
    (v : Value) (h : v.isData = true) : motive v := by
  induction size : sizeOf v using Nat.strongRecOn generalizing v with
  | ind n ih =>
    subst size
    cases v with
    | null => exact null
    | bool b => exact bool b
    | int i => exact int i
    | text s => exact text s
    | list items =>
      refine list items fun v among => ih _ ?_ v (areData_iff.mp h v among) rfl
      have smaller := List.sizeOf_lt_of_mem among
      rw [Value.list.sizeOf_spec]
      omega
    | dict entries =>
      refine dict entries fun e among => ?_
      obtain ⟨key, data⟩ := exists_text_of_entriesAreData h e among
      refine ⟨key, ih _ ?_ e.2 data rfl⟩
      have smaller := List.sizeOf_lt_of_mem among
      have part : sizeOf e = 1 + sizeOf e.1 + sizeOf e.2 := Prod.mk.sizeOf_spec e.1 e.2
      rw [Value.dict.sizeOf_spec]
      omega
    | _ => cases h

theorem jsonEntries_eq_map (r : Resolver) (object : Reference → Outcome String)
    (es : List (Value × Value)) :
    jsonEntries r object es = es.map fun e => jsonMember (e.1.jsonKey r) (e.2.toJson r object) := by
  induction es with
  | nil => rfl
  | cons e rest ih => simp [jsonEntries, ih]

/-! ## Writing -/

/-- The outcome of writing a value: a text that spells it, if it can be encoded. -/
abbrev Writes (v : Value) (x : Outcome String) : Prop := x.RightIf v.IsEncodable (Spells v)

theorem jsonString_writes (s : String) : (text s).Writes (jsonString s) :=
  (rightIf_guard fun _ => spells_text s).congr (by simp [IsEncodable, dataTexts])

theorem jsonArray_writes {vs : List Value} {F : Value → Outcome String}
    (each : ∀ v ∈ vs, v.Writes (F v)) : (list vs).Writes (jsonArray (vs.map F)) := by
  have all : (vs.mapM F).RightIf (∀ v ∈ vs, v.IsEncodable) (List.Forall₂ Spells vs) := .mapM each
  have same : (vs.map F).mapM id = vs.mapM F := List.mapM_map
  rw [jsonArray, same]
  exact (all.map fun _ => spells_list).congr forall_mem_itemTexts.symm

theorem jsonMember_rightIf (key : String) {v : Value} {x : Outcome String} (h : v.Writes x) :
    (jsonMember (.ok key) x).RightIf (Text.isEncodable key = true ∧ v.IsEncodable)
      fun m => m.1 = key ∧ Spells v m.2 := by
  show Outcome.RightIf (if Text.isEncodable key then x.map fun t => (key, t) else _) _ _
  split
  · next encodable =>
    exact (h.map fun t spells => ⟨rfl, spells⟩).congr (by simp [encodable])
  · next lone => exact ⟨iff_of_false nofun fun both => lone both.1, gives_error _⟩

theorem jsonObject_writes {es : List (Value × Value)}
    {F : Value × Value → Outcome (String × String)}
    (each : ∀ e ∈ es, (F e).RightIf (e.1.IsEncodable ∧ e.2.IsEncodable)
      fun m => e.1 = .text m.1 ∧ Spells e.2 m.2) : (dict es).Writes (jsonObject (es.map F)) := by
  have all := RightIf.mapM each
  have same : (es.map F).mapM id = es.mapM F := List.mapM_map
  rw [jsonObject, same]
  exact (all.map fun _ => spells_dict).congr forall_mem_entryTexts.symm

theorem toJson_writes (r : Resolver) (object : Reference → Outcome String) (v : Value)
    (h : v.isData = true) : v.Writes (v.toJson r object) := by
  refine data_induction (motive := fun v => v.Writes (v.toJson r object)) ?null (fun b => ?bool)
    (fun i => ?int) (fun s => ?text) (fun items each => ?list) (fun entries each => ?dict) v h
  case null =>
    rw [toJson]
    exact (rightIf_ok spells_null).congr (by simp [IsEncodable, dataTexts])
  case bool =>
    rw [toJson]
    exact (rightIf_ok (spells_bool b)).congr (by simp [IsEncodable, dataTexts])
  case int =>
    rw [toJson]
    exact (rightIf_ok (spells_int i)).congr (by simp [IsEncodable, dataTexts])
  case text =>
    rw [toJson]
    exact jsonString_writes s
  case list =>
    rw [toJson, jsonItems_eq_map]
    exact jsonArray_writes each
  case dict =>
    rw [toJson, jsonEntries_eq_map]
    refine jsonObject_writes fun e among => ?_
    obtain ⟨⟨s, key⟩, writes⟩ := each e among
    obtain ⟨isOk, gives⟩ := jsonMember_rightIf s writes
    rw [key, jsonKey]
    refine ⟨isOk.trans (by simp [IsEncodable, dataTexts]), fun m made => ?_⟩
    obtain ⟨rfl, spells⟩ := gives m made
    exact ⟨rfl, spells⟩

end Value

end SelectBuilder
