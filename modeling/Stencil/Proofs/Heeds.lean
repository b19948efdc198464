import Stencil.Expr.Parser
import Stencil.Proofs.Outcome

/-! Parsers inside interpolations and directives. Such a construct ends with a token that stands in
no expression. A parser that heeds this token does not go past it: it never lacks a token, and
neither what follows nor whether the text goes wrong there matters to it. -/
namespace Stencil

/-- Whether a token can stand inside interpolations and directives. -/
def Token.isInner (t : Token) : Bool :=
  match t.kind with
  | .keyword _ | .symbol _ | .ident _ | .str _ | .int _ | .float _ => true
  | _ => false

/-- The token ends an interpolation or a directive. -/
def Token.Ends (t : Token) : Prop := t.kind = .printEnd ∨ t.kind = .directiveEnd

/-- Whether the error is met behind the last token. -/
def ParseError.isAtEnd : ParseError → Bool
  | .unexpectedEnd _ _ | .unclosed _ _ _ | .unterminatedString _ => true
  | _ => false

namespace Parser

variable {α β γ : Type} {stop t : Token} {P : List Token → Prop} {Q : α → List Token → Prop}
  {R : β → List Token → Prop}

/-- All tokens can stand inside interpolations and directives. -/
def Inner (ts : List Token) : Prop := ∀ t ∈ ts, t.isInner = true

/-- The given token is next. -/
def Begins (t : Token) (ts : List Token) : Prop :=
  ∃ rest, ts = t :: rest ∧ t.isInner = true ∧ Inner rest

/-- Before `stop` the parser reads some of the tokens, or it fails there. -/
inductive Halts (stop : Token) (Q : α → List Token → Prop) (p : Parser α) (ts : List Token) : Prop
  | ok (a : α) (rest : List Token) (hQ : Q a rest)
      (h : ∀ s more, p.outcome s (ts ++ stop :: more) = .ok (a, rest ++ stop :: more))
  | error {e : ParseError} (he : e.isAtEnd = false)
      (h : ∀ s more, p.outcome s (ts ++ stop :: more) = .error (.parse e))

/-- From tokens as `P` says the parser does not go past `stop`. -/
def Heeds (stop : Token) (P : List Token → Prop) (Q : α → List Token → Prop) (p : Parser α) :
    Prop :=
  ∀ ⦃ts⦄, P ts → Halts stop Q p ts

/-- Inside of a construct the parser does not go past its end. -/
abbrev Bounded (stop : Token) (p : Parser α) : Prop := Heeds stop Inner (fun _ => Inner) p

lemma Inner.begins {ts : List Token} (h : Inner (t :: ts)) : Begins t (t :: ts) :=
  ⟨ts, rfl, (List.forall_mem_cons.mp h).1, (List.forall_mem_cons.mp h).2⟩

lemma Begins.inner {ts : List Token} (h : Begins t ts) : Inner ts := by
  obtain ⟨rest, rfl, ht, hrest⟩ := h
  exact List.forall_mem_cons.mpr ⟨ht, hrest⟩

/-- Where the outcomes are those of another parser on other tokens. -/
lemma Halts.of_eq {p q : Parser α} {ts us : List Token} (h : Halts stop Q q us)
    (heq : ∀ s more, p.outcome s (ts ++ stop :: more) = q.outcome s (us ++ stop :: more)) :
    Halts stop Q p ts := by
  cases h with
  | error he h => exact .error he fun s more => (heq s more).trans (h s more)
  | ok a rest hQ h => exact .ok _ _ hQ fun s more => (heq s more).trans (h s more)

lemma Begins.ne_nil {ts : List Token} (h : Begins t ts) : ts ≠ [] := by
  obtain ⟨rest, rfl, -, -⟩ := h
  exact List.cons_ne_nil t rest

namespace Heeds

lemma pure {a : α} (h : ∀ ts, P ts → Q a ts) : Heeds stop P Q (Pure.pure a) :=
  fun _ hts => .ok _ _ (h _ hts) fun _ _ => rfl

lemma fail {e : ParseError} (he : e.isAtEnd = false) :
    Heeds stop P Q (Parser.fail e) :=
  fun _ _ => .error he fun _ _ => rfl

lemma unexpected {expected : String} : Heeds stop P Q (Parser.unexpected t expected) := fail rfl

lemma tooDeep : Heeds stop P Q Parser.tooDeep := by
  intro ts _
  cases ts with
  | nil => exact .error rfl fun _ _ => rfl
  | cons t ts => exact .error rfl fun _ _ => rfl

lemma bind {p : Parser α} {f : α → Parser β} (h : Heeds stop P Q p)
    (hf : ∀ a, Heeds stop (Q a) R (f a)) : Heeds stop P R (p >>= f) := by
  intro ts hts
  cases h hts with
  | error he h => exact .error he fun s more => outcome_bind_error (h s more) f
  | ok a rest hQ h => exact (hf _ hQ).of_eq fun s more => outcome_bind_ok (h s more) f

lemma mono {P' : List Token → Prop} {Q' : α → List Token → Prop} {p : Parser α}
    (h : Heeds stop P Q p) (hP : ∀ ts, P' ts → P ts) (hQ : ∀ a ts, Q a ts → Q' a ts) :
    Heeds stop P' Q' p := by
  intro ts hts
  cases h (hP ts hts) with
  | error he h => exact .error he h
  | ok a rest hQ' h => exact .ok _ _ (hQ _ _ hQ') h

lemma of_imp {P' : List Token → Prop} {p : Parser α} (h : Heeds stop P Q p)
    (hP : ∀ ts, P' ts → P ts) : Heeds stop P' Q p :=
  h.mono hP fun _ _ => id

lemma ite {c : Prop} [Decidable c] {p q : Parser α} (hp : Heeds stop P Q p)
    (hq : Heeds stop P Q q) : Heeds stop P Q (if c then p else q) := by
  split
  · exact hp
  · exact hq

/-- Reading does not add tokens. -/
lemma shrinks {p : Parser α} (h : Heeds stop P Q p) (n : Nat) :
    Heeds stop (fun ts => P ts ∧ ts.length ≤ n) (fun a ts => Q a ts ∧ ts.length ≤ n) p := by
  rintro ts ⟨hts, hn⟩
  cases h hts with
  | error he h => exact .error he h
  | ok a rest hQ h =>
    have hlength := (suffix_of_outcome (h ⟨.native, none, .start⟩ [])).length_le
    simp only [List.length_append, List.length_cons] at hlength
    exact .ok _ _ ⟨hQ, by omega⟩ h

/-! ### Single tokens -/

/-- Looks at the next token. -/
lemma look {f : Option Token → Parser α} (hend : Heeds stop (· = []) Q (f (some stop)))
    (htoken : ∀ t, Heeds stop (Begins t) Q (f (some t))) : Heeds stop Inner Q (ahead >>= f) := by
  intro ts hts
  cases ts with
  | nil => exact (hend rfl).of_eq fun s more => outcome_bind_ok outcome_ahead_cons f
  | cons t ts =>
    exact (htoken t hts.begins).of_eq fun s more => outcome_bind_ok outcome_ahead_cons f

/-- Takes a token that is known to be next. -/
lemma take {f : Option Token → Parser α} (h : ∀ u, Heeds stop Inner Q (f u)) :
    Heeds stop (Begins t) Q (next? >>= f) := by
  rintro _ ⟨ts, rfl, -, hts⟩
  exact (h (some t) hts).of_eq fun s more => outcome_bind_ok outcome_next?_cons f

/-- Reads the next token, which must not be the end of the construct. -/
lemma read {expected : String} {f : Token → Parser α}
    (hend : ∃ e, e.isAtEnd = false ∧ f stop = Parser.fail e)
    (htoken : ∀ t, Heeds stop Inner Q (f t)) : Heeds stop Inner Q (next expected >>= f) := by
  intro ts hts
  cases ts with
  | nil =>
    obtain ⟨e, he, hf⟩ := hend
    refine .error he fun s more => (outcome_bind_ok outcome_next_cons f).trans ?_
    rw [hf]
    rfl
  | cons t ts =>
    have hmore := htoken t (List.forall_mem_cons.mp hts).2
    exact hmore.of_eq fun s more => outcome_bind_ok outcome_next_cons f

end Heeds

/-! ### Tests of tokens -/

section Tests

variable (h : t.Ends)
include h

lemma kind_of_ends {f : Token.Kind → Option β} (hprint : f .printEnd = none)
    (hdirective : f .directiveEnd = none) : f t.kind = none := by
  obtain h | h := h
  · rw [h, hprint]
  · rw [h, hdirective]

lemma isSymbol_of_ends (sign : Symbol) : isSymbol sign t = false := by
  unfold isSymbol
  obtain h | h := h <;> rw [h]

lemma isKeyword_of_ends (word : Keyword) : isKeyword word t = false := by
  unfold isKeyword
  obtain h | h := h <;> rw [h]

lemma name?_of_ends : t.name? = none := by
  unfold Token.name?
  obtain h | h := h <;> rw [h]

lemma isWord_of_ends (word : String) : isWord word t = false := by
  rw [isWord, name?_of_ends h]
  rfl

end Tests

section Tokens

variable {p : Token → Bool} {expected : String}

/-- What is eaten is gone. -/
lemma heeds_eat (hp : p stop = false) (n : Nat) :
    Heeds stop (fun ts => Inner ts ∧ ts.length ≤ n)
      (fun found ts => (Inner ts ∧ ts.length ≤ n) ∧ (found = true → ts.length < n)) (eat p) := by
  rintro ts ⟨hts, hn⟩
  cases ts with
  | nil =>
    refine .ok false [] ⟨⟨hts, hn⟩, nofun⟩ fun s more => ?_
    rw [List.nil_append, outcome_eat_cons, hp]
    rfl
  | cons t ts =>
    have hlt : ts.length < n := hn
    cases ht : p t with
    | true =>
      refine .ok true ts
        ⟨⟨(List.forall_mem_cons.mp hts).2, Nat.le_of_lt hlt⟩, fun _ => hlt⟩ fun s more => ?_
      rw [List.cons_append, outcome_eat_cons, ht]
      rfl
    | false =>
      refine .ok false (t :: ts) ⟨⟨hts, hn⟩, nofun⟩ fun s more => ?_
      rw [List.cons_append, outcome_eat_cons, ht]
      rfl

lemma bounded_ahead : Bounded stop ahead := by
  intro ts hts
  cases ts with
  | nil => exact .ok _ _ hts fun _ _ => outcome_ahead_cons
  | cons t ts => exact .ok _ _ hts fun _ _ => outcome_ahead_cons

lemma bounded_eat (hp : p stop = false) : Bounded stop (eat p) := by
  intro ts hts
  cases heeds_eat hp ts.length ⟨hts, Nat.le_refl _⟩ with
  | error he h => exact .error he h
  | ok a rest hQ h => exact .ok _ _ hQ.1.1 h

lemma bounded_expect (hp : p stop = false) : Bounded stop (expect p expected) := by
  refine Heeds.read ⟨_, rfl, if_neg (by rw [hp]; nofun)⟩ fun t => ?_
  exact Heeds.ite (Heeds.pure fun _ => id) Heeds.unexpected

lemma bounded_identifier (hstop : stop.Ends) :
    Bounded stop (identifier expected) := by
  have hat : Bounded stop (identifierAt expected) := by
    refine Heeds.read ⟨_, rfl, by rw [name?_of_ends hstop]; rfl⟩ fun t => ?_
    cases t.name? with
    | none => exact Heeds.unexpected
    | some name => exact Heeds.pure fun _ => id
  exact hat.bind fun _ => Heeds.pure fun _ => id

end Tokens

/-! ### Repetitions -/

lemma bounded_repeatWhile {more : Parser (Option γ)} {item : γ → Token → Parser (α × Bool)}
    (hmore : Heeds stop Inner (fun b ts => Inner ts ∧ (b.isSome = true → ts ≠ [])) more)
    (hitem : ∀ b t, Bounded stop (item b t)) : Bounded stop (repeatWhile more item) := by
  suffices h : ∀ n, Heeds stop (fun ts => Inner ts ∧ ts.length ≤ n) (fun _ => Inner)
      (repeatWhile more item) from fun ts hts => h _ ⟨hts, Nat.le_refl _⟩
  intro n
  induction n using Nat.strongRecOn with
  | ind n ih =>
  rintro ts ⟨hts, hn⟩
  cases (hmore.shrinks n) ⟨hts, hn⟩ with
  | error he h => exact .error he fun s more => repeatWhile_error (h s more)
  | ok b rest hQ h =>
    obtain ⟨⟨hrest, hnext⟩, hlt⟩ := hQ
    cases b with
    | none => exact .ok _ _ hrest fun s more => repeatWhile_none (h s more)
    | some b =>
      obtain ⟨t, rest, rfl⟩ := List.exists_cons_of_ne_nil (hnext rfl)
      refine Halts.of_eq ?_ fun s more => repeatWhile_some (h s more)
      refine ((hitem b t).shrinks rest.length).bind (fun r => ?_)
        ⟨(List.forall_mem_cons.mp hrest).2, Nat.le_refl _⟩
      refine Heeds.ite ((ih _ hlt).bind fun as => ?_) (Heeds.pure fun _ h => h.1)
      exact Heeds.pure fun _ => id

lemma bounded_commaList {item : Parser α} (hstop : stop.Ends)
    (hitem : Bounded stop item) (close : Symbol) (expected : String) :
    Bounded stop (commaList close expected item) := by
  have hclose := isSymbol_of_ends hstop close
  have hcomma := isSymbol_of_ends hstop .comma
  suffices h : ∀ n, Heeds stop (fun ts => Inner ts ∧ ts.length ≤ n) (fun _ => Inner)
      (commaList close expected item) from fun ts hts => h _ ⟨hts, Nat.le_refl _⟩
  intro n
  induction n using Nat.strongRecOn with
  | ind n ih =>
  rw [commaList_eq]
  refine (heeds_eat hclose n).bind fun found => ?_
  refine Heeds.ite (Heeds.pure fun ts h => h.1.1) ?_
  refine ((hitem.shrinks n).of_imp fun ts h => h.1).bind fun a => ?_
  refine (heeds_eat hcomma n).bind fun found => ?_
  cases found with
  | true =>
    rintro ts ⟨⟨hts, -⟩, hlt⟩
    exact ((ih ts.length (hlt rfl)).bind fun as => Heeds.pure fun _ => id) ⟨hts, Nat.le_refl _⟩
  | false =>
    refine ((bounded_expect hclose).of_imp fun ts h => h.1.1).bind fun _ => ?_
    exact Heeds.pure fun _ => id

/-! ### Whole constructs -/

/-- The parser reads all tokens and `stop` behind them, or it fails there. -/
inductive Finishes (stop : Token) (p : Parser α) (ts : List Token) : Prop
  | ok {a : α} (h : ∀ s more, p.outcome s (ts ++ stop :: more) = .ok (a, more))
  | error {e : ParseError} (he : e.isAtEnd = false)
      (h : ∀ s more, p.outcome s (ts ++ stop :: more) = .error (.parse e))

/-- From tokens as `P` says the parser goes through `stop`. -/
def Closes (stop : Token) (P : List Token → Prop) (p : Parser α) : Prop :=
  ∀ ⦃ts⦄, P ts → Finishes stop p ts

lemma Closes.fail {e : ParseError} (he : e.isAtEnd = false) :
    Closes stop P (Parser.fail e : Parser α) :=
  fun _ _ => .error he fun _ _ => rfl

lemma Closes.ite {c : Prop} [Decidable c] {p q : Parser α} (hp : Closes stop P p)
    (hq : Closes stop P q) : Closes stop P (if c then p else q) := by
  split
  · exact hp
  · exact hq

lemma Heeds.before {p : Parser α} {f : α → Parser β} (h : Heeds stop P Q p)
    (hf : ∀ a, Closes stop (Q a) (f a)) : Closes stop P (p >>= f) := by
  intro ts hts
  cases h hts with
  | error he h => exact .error he fun s more => outcome_bind_error (h s more) f
  | ok a rest hQ h =>
    cases hf _ hQ with
    | error he h' => exact .error he fun s more => (outcome_bind_ok (h s more) f).trans (h' s more)
    | ok h' => exact .ok fun s more => (outcome_bind_ok (h s more) f).trans (h' s more)

lemma Closes.map {p : Parser α} (h : Closes stop P p) (b : β) :
    Closes stop P (p >>= fun _ => Pure.pure b) := by
  intro ts hts
  cases h hts with
  | error he h => exact .error he fun s more => outcome_bind_error (h s more) _
  | ok h => exact .ok fun s more => outcome_bind_ok (h s more) _

/-- The end of a construct that has no more tokens. -/
lemma closes_expect {p : Token → Bool} {expected : String} (hstop : p stop = true)
    (hinner : ∀ t, t.isInner = true → p t = false) :
    Closes stop Inner (expect p expected) := by
  intro ts hts
  cases ts with
  | nil =>
    refine .ok (a := stop) fun s more => (outcome_bind_ok outcome_next_cons _).trans ?_
    rw [hstop]
    rfl
  | cons t ts =>
    have ht := hinner t (List.forall_mem_cons.mp hts).1
    refine .error (e := .unexpectedToken expected t.kind.describe t.pos) rfl fun s more =>
      (outcome_bind_ok outcome_next_cons _).trans ?_
    rw [ht]
    rfl

end Parser

end Stencil
