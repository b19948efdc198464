import Stencil.Proofs.Printer

/-! Parsers on tokens of known shapes: what they read and what they leave. -/
namespace Stencil.Parser

open Token Shape

variable {α β : Type} {c c' : Prop} {a : α} {b : β} {x y : Shape} {X M R : List Shape}

/-- From tokens of the shapes `X` the parser reads `a` and leaves tokens of the shapes `R`. Only if
`c` fails may the nesting be too deep for it instead. -/
def Takes (c : Prop) (p : Parser α) (X : List Shape) (a : α) (R : List Shape) : Prop :=
  ∀ ⦃s : Source⦄, s.fault = none → ∀ ⦃ts : List Token⦄, List.Forall₂ Fits ts X →
    (∃ r, p s ts = .ok r ∧ r.value = a ∧ List.Forall₂ Fits r.rest R) ∨
      ¬c ∧ ∃ pos, p s ts = .error (.parse (.tooDeep maxNesting pos))

/-! ### Combinators -/

namespace Takes

lemma pure : Takes c (Pure.pure a) X a X :=
  fun _ _ _ hts => .inl ⟨_, rfl, rfl, hts⟩

lemma bind {p : Parser α} {f : α → Parser β} (hp : Takes c p X a M) (hf : Takes c (f a) M b R) :
    Takes c (p >>= f) X b R := by
  intro s hs ts hts
  simp only [Bind.bind]
  rcases hp hs hts with ⟨⟨a, rest, h⟩, hr, rfl, hrest⟩ | ⟨hc, pos, hr⟩
  · rcases hf hs hrest with ⟨⟨b, rest', h'⟩, hr', rfl, hrest'⟩ | ⟨hc, pos, hr'⟩
    · simp only [hr, hr']
      exact .inl ⟨_, rfl, rfl, hrest'⟩
    · simp only [hr, hr']
      exact .inr ⟨hc, pos, rfl⟩
  · simp only [hr]
    exact .inr ⟨hc, pos, rfl⟩

lemma mono {p : Parser α} (hp : Takes c' p X a R) (h : c → c') : Takes c p X a R := by
  intro s hs ts hts
  exact (hp hs hts).imp_right fun ⟨hc, hpos⟩ => ⟨fun hc' => hc (h hc'), hpos⟩

lemma tooDeep (h : ¬c) : Takes c Parser.tooDeep X a R := by
  intro s hs ts hts
  cases ts with
  | nil =>
    simp only [Parser.tooDeep, atEnd, hs]
    exact .inr ⟨h, _, rfl⟩
  | cons t ts => exact .inr ⟨h, t.pos, rfl⟩

/-- Behind a parser that does not fail on such tokens. -/
lemma after {p : Parser α} {f : α → Parser β}
    (h : ∀ ⦃s : Source⦄, s.fault = none → ∀ ⦃ts : List Token⦄, List.Forall₂ Fits ts X →
      ∃ r, p s ts = .ok r ∧ List.Forall₂ Fits r.rest M ∧ Takes c (f r.value) M b R) :
    Takes c (p >>= f) X b R := by
  intro s hs ts hts
  obtain ⟨r, hr, hrest, hf⟩ := h hs hts
  simp only [Bind.bind, hr]
  rcases hf hs hrest with ⟨⟨b, rest, hsuffix⟩, hr', rfl, hrest'⟩ | ⟨hc, pos, hr'⟩
  · simp only [hr']
    exact .inl ⟨_, rfl, rfl, hrest'⟩
  · simp only [hr']
    exact .inr ⟨hc, pos, rfl⟩

/-! ### Single tokens -/

lemma next {expected : String} {f : Token → Parser β}
    (h : ∀ t, t.Fits x → Takes c (f t) M b R) :
    Takes c (Parser.next expected >>= f) (x :: M) b R := by
  refine after (M := M) fun s _ ts hts => ?_
  cases hts with
  | cons ht hts => exact ⟨_, rfl, hts, h _ ht⟩

lemma next? {f : Option Token → Parser β} (h : ∀ t, t.Fits x → Takes c (f (some t)) M b R) :
    Takes c (Parser.next? >>= f) (x :: M) b R := by
  refine after (M := M) fun s _ ts hts => ?_
  cases hts with
  | cons ht hts => exact ⟨_, rfl, hts, h _ ht⟩

lemma ahead {f : Option Token → Parser β}
    (h : ∀ t, t.Fits x → Takes c (f (some t)) (x :: M) b R) :
    Takes c (Parser.ahead >>= f) (x :: M) b R := by
  refine after (M := x :: M) fun s _ ts hts => ?_
  cases hts with
  | cons ht hts => exact ⟨_, rfl, .cons ht hts, h _ ht⟩

lemma secondAhead {f : Option Token → Parser β}
    (h : ∀ t, t.Fits y → Takes c (f (some t)) (x :: y :: M) b R) :
    Takes c (Parser.secondAhead >>= f) (x :: y :: M) b R := by
  refine after (M := x :: y :: M) fun s _ ts hts => ?_
  cases hts with
  | cons ht hts =>
    cases hts with
    | cons hu hts => exact ⟨_, rfl, .cons ht (.cons hu hts), h _ hu⟩

lemma run_expect {p : Token → Bool} {t : Token} (ht : p t = true) (expected : String) (s : Source)
    (ts : List Token) :
    Parser.expect p expected s (t :: ts) = .ok ⟨t, ts, List.suffix_cons t ts⟩ := by
  simp only [Parser.expect, Bind.bind, Parser.next, ht, if_true]
  rfl

lemma expect {p : Token → Bool} {expected : String} {f : Token → Parser β}
    (hp : ∀ t, t.Fits x → p t = true) (h : ∀ t, t.Fits x → Takes c (f t) M b R) :
    Takes c (Parser.expect p expected >>= f) (x :: M) b R := by
  refine after (M := M) fun s _ ts hts => ?_
  cases hts with
  | cons ht hts => exact ⟨_, run_expect (hp _ ht) _ _ _, hts, h _ ht⟩

lemma eat_hit {p : Token → Bool} (hp : ∀ t, t.Fits x → p t = true) :
    Takes c (eat p) (x :: M) true M := by
  refine ahead fun t ht => ?_
  simp only [hp t ht, if_true]
  exact next? fun _ _ => pure

lemma eat_miss {p : Token → Bool} (hp : ∀ t, t.Fits x → p t = false) :
    Takes c (eat p) (x :: M) false (x :: M) := by
  refine ahead fun t ht => ?_
  simp only [hp t ht, Bool.false_eq_true, if_false]
  exact pure

end Takes

lemma isSymbol_of_fits {t : Token} {s : Symbol} (h : t.Fits (sign s)) : isSymbol s t = true := by
  unfold isSymbol
  rw [h.1]
  simp [sign]

lemma isSymbol_of_kind_ne {t : Token} {s : Symbol} (h : t.Fits x) (hx : x.kind ≠ .symbol s) :
    isSymbol s t = false := by
  unfold isSymbol
  rw [h.1]
  split
  · rename_i s' hs'
    simp only [decide_eq_false_iff_not]
    rintro rfl
    exact hx hs'
  · rfl

lemma isKeyword_of_fits {t : Token} {k : Keyword} (h : t.Fits (word k)) :
    isKeyword k t = true := by
  unfold isKeyword
  rw [h.1]
  simp [word]

lemma isKeyword_of_kind_ne {t : Token} {k : Keyword} (h : t.Fits x) (hx : x.kind ≠ .keyword k) :
    isKeyword k t = false := by
  unfold isKeyword
  rw [h.1]
  split
  · rename_i k' hk'
    simp only [decide_eq_false_iff_not]
    rintro rfl
    exact hx hk'
  · rfl

lemma name?_of_fits {t : Token} {n : String} (h : t.Fits (name n)) : t.name? = some n := by
  unfold Token.name?
  rw [h.1]
  rfl

lemma isWord_of_kind_ne {t : Token} {n : String} (h : t.Fits x) (hx : x.kind ≠ .ident n) :
    isWord n t = false := by
  unfold isWord Token.name?
  rw [h.1]
  split
  · rename_i n' hn'
    simp only [decide_eq_false_iff_not, Option.some.injEq]
    rintro rfl
    exact hx hn'
  · rfl

namespace Takes

lemma eat_sign {s : Symbol} : Takes c (eat (isSymbol s)) (sign s :: M) true M :=
  eat_hit fun _ => isSymbol_of_fits

lemma eat_other_sign {s : Symbol} (hx : x.kind ≠ .symbol s) :
    Takes c (eat (isSymbol s)) (x :: M) false (x :: M) :=
  eat_miss fun _ ht => isSymbol_of_kind_ne ht hx

lemma identifier {expected n : String} :
    Takes c (Parser.identifier expected) (name n :: M) n M := by
  have hat : ∀ {f : String × Position → Parser String}, (∀ pos, Takes c (f (n, pos)) M n M) →
      Takes c (identifierAt expected >>= f) (name n :: M) n M := by
    intro f hf
    refine after (M := M) fun s _ ts hts => ?_
    cases hts with
    | @cons t _ ts _ ht hts =>
      refine ⟨⟨(n, t.pos), ts, List.suffix_cons t ts⟩, ?_, hts, hf t.pos⟩
      simp only [identifierAt, Bind.bind, Parser.next, name?_of_fits ht]
      rfl
  exact hat fun pos => pure

/-! ### Repetitions -/

/-- Nothing is too deep for the parser where `c` is certain. -/
lemma run {p : Parser α} (h : Takes True p X a R) {s : Source} (hs : s.fault = none)
    {ts : List Token} (hts : List.Forall₂ Fits ts X) :
    ∃ rest hrest, p s ts = .ok ⟨a, rest, hrest⟩ ∧ List.Forall₂ Fits rest R := by
  rcases h hs hts with ⟨⟨a, rest, hrest⟩, hr, rfl, hfits⟩ | ⟨hc, -⟩
  · exact ⟨rest, hrest, hr, hfits⟩
  · exact absurd trivial hc

section CommaList

variable {close : Symbol} {expected : String} {item : Parser α} {more : List α}

lemma commaList_nil : Takes c (commaList close expected item) (sign close :: M) [] M := by
  intro s hs ts hts
  obtain ⟨rest, hrest, hr, hfits⟩ := run (eat_sign (s := close)) hs hts
  rw [commaList.eq_def, hr]
  exact .inl ⟨_, rfl, rfl, hfits⟩

lemma commaList_last (hx : x.kind ≠ .symbol close) (hclose : close ≠ .comma)
    (hitem : Takes c item (x :: X) a (sign close :: M)) :
    Takes c (commaList close expected item) (x :: X) [a] M := by
  intro s hs ts hts
  obtain ⟨rest, hrest, hr, hfits⟩ := run (eat_other_sign hx) hs hts
  rw [commaList.eq_def, hr]
  dsimp only
  rcases hitem hs hfits with ⟨⟨a, rest', hrest'⟩, hr', rfl, hfits'⟩ | ⟨hc, pos, hr'⟩
  · cases hfits' with
    | @cons t _ rest' _ ht hfits' =>
      have hcomma : isSymbol .comma t = false :=
        isSymbol_of_kind_ne ht (by simpa [sign] using hclose)
      simp only [hr', hcomma, Bool.false_eq_true, if_false, run_expect (isSymbol_of_fits ht)]
      exact .inl ⟨_, rfl, rfl, hfits'⟩
  · rw [hr']
    exact .inr ⟨hc, pos, rfl⟩

lemma commaList_cons (hx : x.kind ≠ .symbol close)
    (hitem : Takes c item (x :: X) a (sign .comma :: M))
    (hmore : Takes c (commaList close expected item) M more R) :
    Takes c (commaList close expected item) (x :: X) (a :: more) R := by
  intro s hs ts hts
  obtain ⟨rest, hrest, hr, hfits⟩ := run (eat_other_sign hx) hs hts
  rw [commaList.eq_def, hr]
  dsimp only
  rcases hitem hs hfits with ⟨⟨a, rest', hrest'⟩, hr', rfl, hfits'⟩ | ⟨hc, pos, hr'⟩
  · cases hfits' with
    | @cons t _ rest' _ ht hfits' =>
      simp only [hr', isSymbol_of_fits ht, if_true]
      rcases hmore hs hfits' with ⟨⟨more, last, hlast⟩, hr'', rfl, hfits''⟩ | ⟨hc, pos, hr''⟩
      · simp only [hr'']
        exact .inl ⟨_, rfl, rfl, hfits''⟩
      · simp only [hr'']
        exact .inr ⟨hc, pos, rfl⟩
  · rw [hr']
    exact .inr ⟨hc, pos, rfl⟩

/-- Items with commas between them are read one after the other. -/
lemma commaList {shapes : α → List Shape} (hclose : close ≠ .comma) (items : List α)
    (hstart : ∀ a ∈ items, ∀ M, ∃ x X, shapes a ++ M = x :: X ∧ x.kind ≠ .symbol close)
    (hitem : ∀ a ∈ items, ∀ x M, x = sign .comma ∨ x = sign close →
      Takes c item (shapes a ++ x :: M) a (x :: M)) :
    Takes c (commaList close expected item) (commas (items.map shapes) ++ sign close :: M) items
      M := by
  induction items with
  | nil => exact commaList_nil
  | cons a more ih =>
    obtain ⟨hfirst, hmore⟩ := List.forall_mem_cons.mp hstart
    obtain ⟨hone, hitems⟩ := List.forall_mem_cons.mp hitem
    cases more with
    | nil =>
      have hread := hone (sign close) M (.inr rfl)
      obtain ⟨x, X, hX, hx⟩ := hfirst (sign close :: M)
      rw [hX] at hread
      change Takes c _ (shapes a ++ sign close :: M) _ _
      rw [hX]
      exact commaList_last hx hclose hread
    | cons a' more =>
      have hread := hone (sign .comma) (commas ((a' :: more).map shapes) ++ sign close :: M)
        (.inl rfl)
      obtain ⟨x, X, hX, hx⟩ := hfirst (sign .comma ::
        (commas ((a' :: more).map shapes) ++ sign close :: M))
      have hsplit : commas ((a :: a' :: more).map shapes) ++ sign close :: M = x :: X := by
        rw [← hX]
        simp only [List.map_cons, commas, List.append_assoc, List.cons_append]
      rw [hX] at hread
      rw [hsplit]
      exact commaList_cons hx hread (ih hmore hitems)

end CommaList

section Suffixes

variable {operator : Parser (Option α)} {apply : α → Nat → Expr → Parser Expr} {n : Nat}
  {e e' : Expr} {o : α}

lemma suffixes_none (h : Takes c operator X none M) :
    Takes c (Expr.suffixes operator apply n e) X e M := by
  cases n with
  | zero => exact h.bind pure
  | succ n => exact h.bind pure

lemma suffixes_some (h : Takes c operator X (some o) M) (hn : c → 0 < n)
    (happly : ∀ m, n = m + 1 →
      Takes c (apply o m e >>= Expr.suffixes operator apply m) M e' R) :
    Takes c (Expr.suffixes operator apply n e) X e' R := by
  cases n with
  | zero => exact h.bind (tooDeep fun hc => Nat.lt_irrefl 0 (hn hc))
  | succ n => exact h.bind (happly n rfl)

end Suffixes

end Takes

end Stencil.Parser
