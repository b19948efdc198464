import Mathlib.Tactic.Common
import Stencil.Parser.Basic

/-! What a parser makes of tokens as plain data: its value and the tokens it leaves. Parsers with
the same outcomes are the same, so that the laws of monads hold for them. -/
namespace Stencil.Parser

variable {α β : Type} {s : Source} {ts rest : List Token} {t : Token} {e : SyntaxError} {a : α}

/-- The value of a parser and the tokens it leaves, or its error. -/
def outcome (p : Parser α) (s : Source) (ts : List Token) : Except SyntaxError (α × List Token) :=
  (p s ts).map fun r => (r.value, r.rest)

lemma ext_outcome {p q : Parser α} (h : ∀ s ts, p.outcome s ts = q.outcome s ts) : p = q := by
  funext s ts
  have h := h s ts
  unfold outcome at h
  generalize p s ts = x at h ⊢
  generalize q s ts = y at h ⊢
  cases x with
  | error e =>
    cases y with
    | error e' => rw [Except.error.inj h]
    | ok r' => cases h
  | ok r =>
    cases y with
    | error e' => cases h
    | ok r' =>
      obtain ⟨a, rest, hrest⟩ := r
      obtain ⟨a', rest', hrest'⟩ := r'
      obtain ⟨rfl, rfl⟩ := Prod.mk.inj (Except.ok.inj h)
      rfl

lemma outcome_eq_ok {p : Parser α} (h : p.outcome s ts = .ok (a, rest)) :
    ∃ hrest, p s ts = .ok ⟨a, rest, hrest⟩ := by
  unfold outcome at h
  generalize p s ts = x at h ⊢
  cases x with
  | error e => cases h
  | ok r =>
    obtain ⟨a', rest', hrest⟩ := r
    obtain ⟨rfl, rfl⟩ := Prod.mk.inj (Except.ok.inj h)
    exact ⟨hrest, rfl⟩

lemma outcome_eq_error {p : Parser α} (h : p.outcome s ts = .error e) : p s ts = .error e := by
  unfold outcome at h
  generalize p s ts = x at h ⊢
  cases x with
  | error e' => rw [Except.error.inj h]
  | ok r => cases h

/-- A parser leaves an end of its tokens. -/
lemma suffix_of_outcome {p : Parser α} (h : p.outcome s ts = .ok (a, rest)) : rest <:+ ts := by
  obtain ⟨hrest, -⟩ := outcome_eq_ok h
  exact hrest

@[simp] lemma outcome_pure : (pure a : Parser α).outcome s ts = .ok (a, ts) := rfl

lemma outcome_bind (p : Parser α) (f : α → Parser β) :
    (p >>= f).outcome s ts = p.outcome s ts >>= fun r => (f r.1).outcome s r.2 := by
  unfold outcome
  simp only [Bind.bind, Except.bind]
  generalize p s ts = x
  cases x with
  | error e => rfl
  | ok r =>
    simp only [Except.map]
    generalize f r.value s r.rest = y
    cases y <;> rfl

lemma outcome_bind_ok {p : Parser α} (h : p.outcome s ts = .ok (a, rest)) (f : α → Parser β) :
    (p >>= f).outcome s ts = (f a).outcome s rest := by
  rw [outcome_bind, h]
  rfl

lemma outcome_bind_error {p : Parser α} (h : p.outcome s ts = .error e) (f : α → Parser β) :
    (p >>= f).outcome s ts = .error e := by
  rw [outcome_bind, h]
  rfl

instance : LawfulMonad Parser := LawfulMonad.mk' Parser
  (fun p => ext_outcome fun s ts => by
    change (p >>= pure).outcome s ts = _
    rw [outcome_bind]
    cases p.outcome s ts <;> rfl)
  (fun a f => ext_outcome fun s ts => outcome_bind_ok outcome_pure f)
  (fun p f g => ext_outcome fun s ts => by
    simp only [outcome_bind]
    cases p.outcome s ts <;> rfl)

/-! ### Single tokens -/

@[simp] lemma outcome_dialect : dialect.outcome s ts = .ok (s.dialect, ts) := rfl

@[simp] lemma outcome_ahead_cons : ahead.outcome s (t :: ts) = .ok (some t, t :: ts) := rfl

@[simp] lemma outcome_secondAhead_cons {u : Token} :
    secondAhead.outcome s (t :: u :: ts) = .ok (some u, t :: u :: ts) := rfl

@[simp] lemma outcome_next?_cons : next?.outcome s (t :: ts) = .ok (some t, ts) := rfl

@[simp] lemma outcome_next_cons {expected : String} :
    (next expected).outcome s (t :: ts) = .ok (t, ts) := rfl

lemma outcome_ahead_nil :
    ahead.outcome s [] = (s.fault.elim (.ok (none, [])) fun e => .error (.ofLex e)) := by
  unfold outcome ahead atEnd
  cases s.fault <;> rfl

lemma outcome_next?_nil :
    next?.outcome s [] = (s.fault.elim (.ok (none, [])) fun e => .error (.ofLex e)) := by
  unfold outcome next? atEnd
  cases s.fault <;> rfl

lemma outcome_next_nil {expected : String} :
    (next expected).outcome s [] = .error
      (s.fault.elim (.parse (.unexpectedEnd expected s.stop)) .ofLex) := by
  unfold outcome next atEnd
  cases s.fault <;> rfl

lemma outcome_eat_nil {p : Token → Bool} :
    (eat p).outcome s [] = (s.fault.elim (.ok (false, [])) fun e => .error (.ofLex e)) := by
  rw [eat, outcome_bind, outcome_ahead_nil]
  cases s.fault <;> rfl

lemma outcome_expect_nil {p : Token → Bool} {expected : String} :
    (expect p expected).outcome s [] = .error
      (s.fault.elim (.parse (.unexpectedEnd expected s.stop)) .ofLex) :=
  outcome_bind_error outcome_next_nil _

lemma outcome_eat_cons {p : Token → Bool} :
    (eat p).outcome s (t :: ts) = .ok (p t, if p t then ts else t :: ts) := by
  rw [eat, outcome_bind_ok outcome_ahead_cons]
  cases ht : p t with
  | true =>
    simp only [ht, if_true]
    rfl
  | false =>
    simp only [ht, Bool.false_eq_true, if_false]
    rfl

/-! ### Repetitions -/

section RepeatWhile

variable {more : Parser (Option β)} {item : β → Token → Parser (α × Bool)}

lemma repeatWhile_error (h : more.outcome s ts = .error e) :
    (repeatWhile more item).outcome s ts = .error e := by
  rw [outcome, repeatWhile.eq_def, outcome_eq_error h]
  rfl

lemma repeatWhile_none (h : more.outcome s ts = .ok (none, rest)) :
    (repeatWhile more item).outcome s ts = .ok ([], rest) := by
  obtain ⟨hrest, h⟩ := outcome_eq_ok h
  rw [outcome, repeatWhile.eq_def, h]
  rfl

lemma repeatWhile_nil {b : β} (h : more.outcome s ts = .ok (some b, [])) :
    (repeatWhile more item).outcome s ts = .ok ([], []) := by
  obtain ⟨hrest, h⟩ := outcome_eq_ok h
  rw [outcome, repeatWhile.eq_def, h]
  rfl

/-- An item, and the others if they may follow. -/
lemma repeatWhile_some {b : β} (h : more.outcome s ts = .ok (some b, t :: rest)) :
    (repeatWhile more item).outcome s ts =
      (item b t >>= fun r =>
        if r.2 then (do return r.1 :: (← repeatWhile more item)) else pure [r.1]).outcome s
        rest := by
  obtain ⟨hrest, h⟩ := outcome_eq_ok h
  rw [outcome, repeatWhile.eq_def, h, outcome_bind, outcome]
  dsimp only
  cases item b t s rest with
  | error e => rfl
  | ok r =>
    obtain ⟨⟨a, again⟩, rest', hrest'⟩ := r
    cases again with
    | false => rfl
    | true =>
      simp only [Except.map, Bind.bind, Except.bind]
      change _ = outcome (repeatWhile more item >>= fun as => pure (a :: as)) s rest'
      rw [outcome_bind, outcome]
      cases repeatWhile more item s rest' <;> rfl

end RepeatWhile

/-- Items with commas between them, one item at a time. -/
lemma commaList_eq (close : Symbol) (expected : String) (item : Parser α) :
    commaList close expected item = (do
      if ← eat (isSymbol close) then pure []
      else
        let a ← item
        if ← eat (isSymbol .comma) then return a :: (← commaList close expected item)
        else
          let _ ← expect (isSymbol close) expected
          return [a]) := by
  refine ext_outcome fun s ts => ?_
  rw [outcome, commaList.eq_def, outcome_bind, outcome]
  cases eat (isSymbol close) s ts with
  | error e => rfl
  | ok r =>
    obtain ⟨found, rest, hrest⟩ := r
    cases found with
    | true => rfl
    | false =>
      simp only [Except.map, Bind.bind, Except.bind, Bool.false_eq_true]
      change _ = outcome (item >>= fun a => eat (isSymbol .comma) >>= fun again =>
        if again then (do return a :: (← commaList close expected item))
        else (do
          let _ ← expect (isSymbol close) expected
          return [a])) s rest
      rw [outcome_bind, outcome]
      cases item s rest with
      | error e => rfl
      | ok r =>
        obtain ⟨a, rest', hrest'⟩ := r
        change _ = outcome (eat (isSymbol .comma) >>= fun again => _) s rest'
        cases rest' with
        | nil =>
          rw [outcome_bind, outcome_eat_nil]
          have hexpect : (expect (isSymbol close) expected).outcome s [] = _ := outcome_expect_nil
          cases hfault : s.fault with
          | some e =>
            rw [hfault] at hexpect
            simp only [outcome_eq_error hexpect]
            rfl
          | none =>
            rw [hfault] at hexpect
            simp only [outcome_eq_error hexpect]
            exact (outcome_bind_error hexpect _).symm
        | cons t rest' =>
          rw [outcome_bind_ok outcome_eat_cons]
          cases ht : isSymbol .comma t with
          | true =>
            simp only [ht, if_true]
            rw [outcome_bind, outcome]
            cases commaList close expected item s rest' <;> rfl
          | false =>
            simp only [ht, Bool.false_eq_true, if_false]
            rw [outcome_bind, outcome]
            cases expect (isSymbol close) expected s (t :: rest') <;> rfl

end Stencil.Parser
