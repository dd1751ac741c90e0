import SelectBuilder.Proofs.Builder.Statement
import SelectBuilder.Proofs.Session.Run
import SelectBuilder.Proofs.Store.Rendering

/-!
# Rendering after a run

Under strict settings the text of a statement is that of its calls, in their order.
-/
namespace SelectBuilder

namespace Session

/-- The texts of the calls that a builder accepts in a run, each told from the call alone. -/
def texts (id : Nat) (s : Session) : List Step → List String
  | [] => []
  | x :: xs =>
    ((s.acceptedBy id x).map (Call.text s.store.quoted)).toList ++ texts id (s.step x).1 xs

theorem texts_append (id : Nat) (s : Session) (xs ys : List Step) :
    s.texts id (xs ++ ys) = s.texts id xs ++ (s.run xs).texts id ys := by
  induction xs generalizing s with
  | nil => rfl
  | cons x xs ih => simp [texts, ih]

theorem spells_run {s : Session} {id : Nat} {b : Builder} {ts : List String}
    (found : s.store.builders[id]? = some b) (spells : b.Spells ts) {xs : List Step}
    (strict : s.Always (fun t => t.isStrict id = true) xs)
    (typed : ∀ c ∈ s.history id xs, c.Typed) :
    ∃ b', (s.run xs).store.builders[id]? = some b' ∧ b'.Spells (ts ++ s.texts id xs) := by
  induction xs generalizing s b ts with
  | nil => exact ⟨b, found, by simpa [texts] using spells⟩
  | cons x xs ih =>
    obtain ⟨now, later⟩ := strict
    have typed' : ∀ c ∈ (s.step x).1.history id xs, c.Typed := fun c hc =>
      typed c (List.mem_append_right _ hc)
    rcases builder_step x found with ⟨none, same⟩ | ⟨c, change, accepted, planned, changed⟩
    · simpa [texts, none] using ih same spells later typed'
    · rw [← isStrict_of_found found, now] at changed
      have shown : (s.store.contextOf b).resolver.quoted = s.store.quoted := rfl
      have spells' := spells.apply (typed c (by simp [history, accepted])) planned
      rw [shown] at spells'
      simpa [texts, accepted] using ih changed spells' later typed'

theorem render_of_fresh {s : Session} {id config : Nat}
    (fresh : s.store.builders[id]? = some { config := config }) {xs : List Step}
    (strict : s.Always (fun t => t.isStrict id = true) xs)
    (typed : ∀ c ∈ s.history id xs, c.Typed) :
    (s.run xs).store.render id = .ok (String.intercalate " " (s.texts id xs)) := by
  obtain ⟨b, found, spells⟩ := spells_run fresh (.fresh config) strict typed
  rw [Store.render_eq found, spells.render]
  rfl

/-- A builder that starts fresh and whose settings are strict throughout is rendered as the texts of
the calls that it has accepted, with single spaces between them. What comes later in a run is added
to the text, and calls that fail add nothing. A call without objects among its operands has a text
of its own. -/
theorem render_run {s : Session} {id config : Nat}
    (fresh : s.store.builders[id]? = some { config := config }) {before after : List Step}
    (strict : s.Always (fun t => t.isStrict id = true) (before ++ after))
    (typed : ∀ c ∈ s.history id (before ++ after), c.Typed) :
    (s.run before).store.render id = .ok (String.intercalate " " (s.texts id before)) ∧
      (s.run (before ++ after)).store.render id =
        .ok (String.intercalate " " (s.texts id before ++ (s.run before).texts id after)) ∧
      (∀ x e, ((s.run before).step x).2.outcome = .error e → (s.run before).texts id [x] = []) ∧
      ∀ (c : Call) (shown shown' : Reference → Outcome String), c.references = [] →
        c.text shown = c.text shown' := by
  have typed' : ∀ c ∈ s.history id before, c.Typed := fun c hc =>
    typed c (by rw [history_append]; exact List.mem_append_left _ hc)
  refine ⟨render_of_fresh fresh strict.before typed', ?_, ?_, ?_⟩
  · rw [render_of_fresh fresh strict typed, texts_append]
  · intro x e failed
    cases accepted : (s.run before).acceptedBy id x with
    | none => simp [texts, accepted]
    | some c =>
      obtain ⟨on, method, args, named, -, -, -, ok⟩ := acceptedBy_eq_some.mp accepted
      rw [failed] at ok
      cases ok
  · intro c shown shown' none
    exact c.text_congr (by simp [none])

/-- A session with one builder. -/
def single : Session := initial.run [.new "q" (.fields [])]

/-- The third call is refused, since the column before it still waits for its operator. -/
def spelled : List Step :=
  [.call "q" "select" [.text "id", .tuple [.text "n", .text "m"]] [],
    .call "q" "where" [.text "a"] [], .call "q" "and_" [.text "b"] []]

def continued : List Step :=
  [.call "q" "equals_to" [.int 1] [], .call "q" "limit" [.int 5] []]

theorem render_run_spelled :
    (single.run (spelled ++ continued)).store.render 0 =
      .ok "SELECT id, n AS m WHERE a = 1 LIMIT 5" := by
  have history : single.history 0 (spelled ++ continued) =
      [.select [.text "id", .tuple [.text "n", .text "m"]], .rows (.text "a"),
        .compare (.text "=") (.int 1), .paginate (.int 5) .null] := rfl
  have typed : ∀ c ∈ single.history 0 (spelled ++ continued), c.Typed := by
    rw [history]
    simp [Call.Typed, Value.IsColumn, Value.IsString, Value.IsLiteral, Value.IsNumber,
      Value.IsWhole, Value.sequence?, Value.IsOptional]
  have rendered := (@render_run single 0 1 rfl spelled continued
    ⟨rfl, rfl, rfl, rfl, rfl, rfl⟩ typed).2.1
  exact rendered.trans rfl

end Session

end SelectBuilder
