import Stencil.Proofs.Document

/-! Parsers on the tokens of two texts, one of each dialect. Where the tokens ahead are alike, both
parsers fail or both succeed, with results that are alike. Inside a directive the tokens are the
same up to its end; what follows behind that end may differ. -/
namespace Stencil.Parser

open Token

/-- A relation between the shapes of the tokens ahead in the two texts. -/
abbrev Ahead := List Shape → List Shape → Prop

/-- Nothing in the two texts is wrong, and they are written in the two dialects. -/
structure Sources (s s' : Source) : Prop where
  native : s.dialect = .native
  jinja : s'.dialect = .jinja
  sound : s.fault = none
  sound' : s'.fault = none

variable {α β α' β' : Type}

/-- Both parsers fail, or both succeed as `Q` says. -/
inductive Outcome (Q : α → β → Ahead) {ts us : List Token} :
    Except SyntaxError (Parsed α ts) → Except SyntaxError (Parsed β us) → Prop where
  | error {e e' : SyntaxError} : Outcome Q (.error e) (.error e')
  | ok {r : Parsed α ts} {r' : Parsed β us}
      (h : Q r.value r'.value (r.rest.map Token.shape) (r'.rest.map Token.shape)) :
      Outcome Q (.ok r) (.ok r')

/-- From tokens that `P` relates the two parsers have the same outcome. -/
def Tracks (P : Ahead) (Q : α → β → Ahead) (p : Parser α) (q : Parser β) : Prop :=
  ∀ ⦃s s' : Source⦄, Sources s s' → ∀ ⦃ts us : List Token⦄,
    P (ts.map Token.shape) (us.map Token.shape) → Outcome Q (p s ts) (q s' us)

/-- The results are related by `C`, and `P` relates what is ahead. -/
def Yield (C : α → β → Prop) (P : Ahead) (a : α) (b : β) : Ahead := fun A B => C a b ∧ P A B

/-- The results are the same. -/
abbrev Same (P : Ahead) : α → α → Ahead := Yield (· = ·) P

/-- These tokens are ahead. -/
def Is (X Y : List Shape) : Ahead := fun A B => A = X ∧ B = Y

variable {P M : Ahead} {Q : α → β → Ahead} {R : α' → β' → Ahead}

namespace Tracks

lemma pure {a : α} {b : β} (h : ∀ A B, P A B → Q a b A B) :
    Tracks P Q (Pure.pure a : Parser α) (Pure.pure b : Parser β) :=
  fun _ _ _ _ _ hP => .ok (h _ _ hP)

lemma bind {p : Parser α} {q : Parser β} {f : α → Parser α'} {g : β → Parser β'}
    (h : Tracks P Q p q) (hf : ∀ a b, Tracks (Q a b) R (f a) (g b)) :
    Tracks P R (p >>= f) (q >>= g) := by
  intro s s' hs ts us hP
  have hout := h hs hP
  simp only [Bind.bind]
  generalize p s ts = x at hout
  generalize q s' us = y at hout
  cases hout with
  | error => exact .error
  | @ok r r' hQ =>
    have hout := hf r.value r'.value hs hQ
    dsimp only
    generalize f r.value s r.rest = x at hout
    generalize g r'.value s' r'.rest = y at hout
    cases hout with
    | error => exact .error
    | ok hR => exact .ok hR

lemma bind_yield {C : α → β → Prop} {p : Parser α} {q : Parser β} {f : α → Parser α'}
    {g : β → Parser β'} (h : Tracks P (Yield C M) p q)
    (hf : ∀ a b, C a b → Tracks M R (f a) (g b)) : Tracks P R (p >>= f) (q >>= g) := by
  refine bind h fun a b s s' hs ts us hab => ?_
  exact hf a b hab.1 hs hab.2

lemma bind_same {p q : Parser α} {f : α → Parser α'} {g : α → Parser β'}
    (h : Tracks P (Same M) p q) (hf : ∀ a, Tracks M R (f a) (g a)) :
    Tracks P R (p >>= f) (q >>= g) := by
  refine bind_yield h ?_
  rintro a _ rfl
  exact hf a

lemma mono {P' : Ahead} {Q' : α → β → Ahead} {p : Parser α} {q : Parser β} (h : Tracks P Q p q)
    (hP : ∀ A B, P' A B → P A B) (hQ : ∀ a b A B, Q a b A B → Q' a b A B) : Tracks P' Q' p q := by
  intro s s' hs ts us hP'
  have hout := h hs (hP _ _ hP')
  generalize p s ts = x at hout ⊢
  generalize q s' us = y at hout ⊢
  cases hout with
  | error => exact .error
  | ok hQ' => exact .ok (hQ _ _ _ _ hQ')

lemma of_imp {P' : Ahead} {p : Parser α} {q : Parser β} (h : Tracks P Q p q)
    (hP : ∀ A B, P' A B → P A B) : Tracks P' Q p q :=
  h.mono hP fun _ _ _ _ => id

lemma fail {e e' : ParseError} : Tracks P Q (Parser.fail e) (Parser.fail e') :=
  fun _ _ _ _ _ _ => .error

lemma unexpected {t u : Token} {e e' : String} :
    Tracks P Q (Parser.unexpected t e) (Parser.unexpected u e') :=
  fun _ _ _ _ _ _ => .error

lemma tooDeep : Tracks P Q Parser.tooDeep Parser.tooDeep := by
  intro s s' hs ts us _
  cases ts with
  | nil =>
    cases us with
    | nil =>
      simp only [Parser.tooDeep, atEnd, hs.sound, hs.sound']
      exact .error
    | cons u us =>
      simp only [Parser.tooDeep, atEnd, hs.sound]
      exact .error
  | cons t ts =>
    cases us with
    | nil =>
      simp only [Parser.tooDeep, atEnd, hs.sound']
      exact .error
    | cons u us => exact .error

lemma ite {c : Prop} [Decidable c] {p p' : Parser α} {q q' : Parser β} (h : Tracks P Q p q)
    (h' : Tracks P Q p' q') : Tracks P Q (if c then p else p') (if c then q else q') := by
  split
  · exact h
  · exact h'

end Tracks

/-! ### Known tokens -/

lemma exists_token {ts : List Token} {x : Shape} {X : List Shape}
    (h : ts.map Token.shape = x :: X) :
    ∃ t rest, ts = t :: rest ∧ t.shape = x ∧ rest.map Token.shape = X := by
  obtain ⟨t, rest, rfl, ht, hrest⟩ := List.map_eq_cons_iff.mp h
  exact ⟨t, rest, rfl, ht, hrest⟩

section Known

variable {x y : Shape} {X Y : List Shape}

lemma tracks_next (expected expected' : String) :
    Tracks (Is (x :: X) (y :: Y)) (Yield (fun t u => t.shape = x ∧ u.shape = y) (Is X Y))
      (next expected) (next expected') := by
  rintro s s' hs ts us ⟨hts, hus⟩
  obtain ⟨t, ts, rfl, ht, hts⟩ := exists_token hts
  obtain ⟨u, us, rfl, hu, hus⟩ := exists_token hus
  exact .ok ⟨⟨ht, hu⟩, hts, hus⟩

lemma tracks_next? :
    Tracks (Is (x :: X) (y :: Y))
      (Yield (fun a b => ∃ t u, a = some t ∧ b = some u ∧ t.shape = x ∧ u.shape = y) (Is X Y))
      next? next? := by
  rintro s s' hs ts us ⟨hts, hus⟩
  obtain ⟨t, ts, rfl, ht, hts⟩ := exists_token hts
  obtain ⟨u, us, rfl, hu, hus⟩ := exists_token hus
  exact .ok ⟨⟨t, u, rfl, rfl, ht, hu⟩, hts, hus⟩

lemma tracks_ahead :
    Tracks (Is (x :: X) (y :: Y))
      (Yield (fun a b => ∃ t u, a = some t ∧ b = some u ∧ t.shape = x ∧ u.shape = y)
        (Is (x :: X) (y :: Y)))
      ahead ahead := by
  rintro s s' hs ts us ⟨hts, hus⟩
  obtain ⟨t, ts, rfl, ht, hts⟩ := exists_token hts
  obtain ⟨u, us, rfl, hu, hus⟩ := exists_token hus
  refine .ok ⟨⟨t, u, rfl, rfl, ht, hu⟩, ?_, ?_⟩
  · rw [List.map_cons, ht, hts]
  · rw [List.map_cons, hu, hus]

lemma tracks_secondAhead {x' y' : Shape} :
    Tracks (Is (x :: x' :: X) (y :: y' :: Y))
      (Yield (fun a b => ∃ t u, a = some t ∧ b = some u ∧ t.shape = x' ∧ u.shape = y')
        (Is (x :: x' :: X) (y :: y' :: Y)))
      secondAhead secondAhead := by
  rintro s s' hs ts us ⟨hts, hus⟩
  obtain ⟨t, ts, rfl, ht, hts⟩ := exists_token hts
  obtain ⟨t', ts, rfl, ht', hts⟩ := exists_token hts
  obtain ⟨u, us, rfl, hu, hus⟩ := exists_token hus
  obtain ⟨u', us, rfl, hu', hus⟩ := exists_token hus
  refine .ok ⟨⟨t', u', rfl, rfl, ht', hu'⟩, ?_, ?_⟩
  · rw [List.map_cons, List.map_cons, ht, ht', hts]
  · rw [List.map_cons, List.map_cons, hu, hu', hus]

end Known

/-! ### Inside directives -/

/-- Up to the end of a directive, behind which `X` and `Y` follow, the tokens are the same. -/
inductive Inside (X Y : List Shape) : Ahead where
  | done : Inside X Y (⟨.directiveEnd, none⟩ :: X) (⟨.directiveEnd, none⟩ :: Y)
  | token {x : Shape} {A B : List Shape} : x.kind ≠ .directiveEnd → Inside X Y A B →
    Inside X Y (x :: A) (x :: B)

/-- A token of the directive is next. -/
def Upon (x : Shape) (X Y : List Shape) : Ahead := fun A B =>
  ∃ A' B', x.kind ≠ .directiveEnd ∧ Inside X Y A' B' ∧ Is (x :: A') (x :: B') A B

/-- The end of the directive is next. -/
abbrev Closing (X Y : List Shape) : Ahead :=
  Is (⟨.directiveEnd, none⟩ :: X) (⟨.directiveEnd, none⟩ :: Y)

variable {X Y A B : List Shape} {x : Shape}

lemma Closing.inside (h : Closing X Y A B) : Inside X Y A B := by
  obtain ⟨rfl, rfl⟩ := h
  exact .done

lemma Upon.inside (h : Upon x X Y A B) : Inside X Y A B := by
  obtain ⟨A', B', hx, hmore, rfl, rfl⟩ := h
  exact .token hx hmore

/-- Inside a directive either its end or one of its tokens is next. -/
lemma Tracks.inside {p : Parser α} {q : Parser β} (hend : Tracks (Closing X Y) Q p q)
    (htoken : ∀ x, Tracks (Upon x X Y) Q p q) : Tracks (Inside X Y) Q p q := by
  intro s s' hs ts us h
  generalize hts : ts.map Token.shape = A at h
  generalize hus : us.map Token.shape = B at h
  cases h with
  | done => exact hend hs ⟨hts, hus⟩
  | token hx hmore => exact htoken _ hs ⟨_, _, hx, hmore, hts, hus⟩

lemma Tracks.upon {p : Parser α} {q : Parser β}
    (h : ∀ A B, x.kind ≠ .directiveEnd → Inside X Y A B → Tracks (Is (x :: A) (x :: B)) Q p q) :
    Tracks (Upon x X Y) Q p q := by
  rintro s s' hs ts us ⟨A, B, hx, hmore, hAB⟩
  exact h A B hx hmore hs hAB

/-- The parser stays inside of the directive, and does the same in both texts. -/
abbrev Stays (X Y : List Shape) (p : Parser α) : Prop :=
  Tracks (Inside X Y) (Same (Inside X Y)) p p

/-- Both texts have the same token. -/
abbrev Alike (x : Shape) (t u : Token) : Prop := t.shape = x ∧ u.shape = x

lemma Alike.left {t u : Token} (h : Alike x t u) : t.kind = x.kind := congrArg Shape.kind h.1

lemma Alike.right {t u : Token} (h : Alike x t u) : u.kind = x.kind := congrArg Shape.kind h.2

lemma Alike.kind_eq {t u : Token} (h : Alike x t u) : t.kind = u.kind :=
  h.left.trans h.right.symm

lemma tracks_next_upon (expected expected' : String) :
    Tracks (Upon x X Y) (Yield (Alike x) (Inside X Y)) (next expected) (next expected') :=
  Tracks.upon fun A B _ hmore => (tracks_next _ _).mono (fun _ _ => id) (by
    rintro t u _ _ ⟨htu, rfl, rfl⟩
    exact ⟨htu, hmore⟩)

lemma tracks_next?_upon :
    Tracks (Upon x X Y)
      (Yield (fun a b => ∃ t u, a = some t ∧ b = some u ∧ Alike x t u) (Inside X Y))
      next? next? :=
  Tracks.upon fun A B _ hmore => tracks_next?.mono (fun _ _ => id) (by
    rintro a b _ _ ⟨hab, rfl, rfl⟩
    exact ⟨hab, hmore⟩)

lemma tracks_ahead_upon :
    Tracks (Upon x X Y)
      (Yield (fun a b => ∃ t u, a = some t ∧ b = some u ∧ Alike x t u) (Upon x X Y))
      ahead ahead :=
  Tracks.upon fun A B hx hmore => tracks_ahead.mono (fun _ _ => id) (by
    rintro a b _ _ ⟨hab, rfl, rfl⟩
    exact ⟨hab, _, _, hx, hmore, rfl, rfl⟩)

/-- Takes a token that is known to be next. -/
lemma Tracks.take {f : Option Token → Parser α} {g : Option Token → Parser β}
    (h : ∀ t u, Alike x t u → Tracks (Inside X Y) Q (f (some t)) (g (some u))) :
    Tracks (Upon x X Y) Q (next? >>= f) (next? >>= g) := by
  refine Tracks.bind_yield tracks_next?_upon ?_
  rintro _ _ ⟨t, u, rfl, rfl, htu⟩
  exact h t u htu

/-- Looks at the next token of the directive. -/
lemma Tracks.look {f : Option Token → Parser α} {g : Option Token → Parser β}
    (hend : ∀ t u, Alike ⟨.directiveEnd, none⟩ t u →
      Tracks (Closing X Y) Q (f (some t)) (g (some u)))
    (htoken : ∀ x t u, Alike x t u → Tracks (Upon x X Y) Q (f (some t)) (g (some u))) :
    Tracks (Inside X Y) Q (ahead >>= f) (ahead >>= g) := by
  refine Tracks.inside (Tracks.bind_yield tracks_ahead ?_) fun x =>
    Tracks.bind_yield tracks_ahead_upon ?_
  · rintro _ _ ⟨t, u, rfl, rfl, htu⟩
    exact hend t u htu
  · rintro _ _ ⟨t, u, rfl, rfl, htu⟩
    exact htoken x t u htu

/-- Reads the next token of the directive, which must not be its end. -/
lemma Tracks.read {expected : String} {f : Token → Parser α} {g : Token → Parser β}
    (hend : ∀ t u, Alike ⟨.directiveEnd, none⟩ t u → Tracks (Is X Y) Q (f t) (g u))
    (htoken : ∀ x t u, Alike x t u → Tracks (Inside X Y) Q (f t) (g u)) :
    Tracks (Inside X Y) Q (next expected >>= f) (next expected >>= g) := by
  refine Tracks.inside (Tracks.bind_yield (tracks_next _ _) hend) fun x =>
    Tracks.bind_yield (tracks_next_upon _ _) (htoken x)

/-! ### Tokens of directives -/

/-- A test of tokens by their kinds that no end of a directive passes. -/
structure ByKind (p : Token → Bool) : Prop where
  same : ∀ t u : Token, t.kind = u.kind → p t = p u
  ends : ∀ t : Token, t.kind = .directiveEnd → p t = false

lemma byKind_isSymbol (sign : Symbol) : ByKind (isSymbol sign) where
  same t u h := by unfold isSymbol; rw [h]
  ends t h := by unfold isSymbol; rw [h]

lemma byKind_isKeyword (word : Keyword) : ByKind (isKeyword word) where
  same t u h := by unfold isKeyword; rw [h]
  ends t h := by unfold isKeyword; rw [h]

lemma byKind_isWord (word : String) : ByKind (isWord word) where
  same t u h := by unfold isWord Token.name?; rw [h]
  ends t h := by
    unfold isWord Token.name?
    rw [h]
    rfl

lemma stays_eat {p : Token → Bool} (hp : ByKind p) : Stays X Y (eat p) := by
  refine Tracks.look (fun t u htu => ?_) fun x t u htu => ?_
  · have ht := hp.ends t htu.left
    have hu := hp.ends u htu.right
    simp only [ht, hu]
    exact Tracks.pure fun A B h => ⟨rfl, h.inside⟩
  · dsimp only
    rw [hp.same t u htu.kind_eq]
    refine Tracks.ite (Tracks.take fun _ _ _ => ?_) ?_
    · exact Tracks.pure fun A B h => ⟨rfl, h⟩
    · exact Tracks.pure fun A B h => ⟨rfl, h.inside⟩

lemma tracks_expect {p : Token → Bool} (hp : ByKind p) (expected : String) :
    Tracks (Inside X Y) (fun _ _ => Inside X Y) (expect p expected) (expect p expected) := by
  refine Tracks.read (fun t u htu => ?_) fun x t u htu => ?_
  · have ht := hp.ends t htu.left
    have hu := hp.ends u htu.right
    simp only [ht, hu]
    exact Tracks.unexpected
  · rw [hp.same t u htu.kind_eq]
    exact Tracks.ite (Tracks.pure fun A B => id) Tracks.unexpected

lemma Alike.name?_eq {t u : Token} (h : Alike x t u) : t.name? = u.name? := by
  unfold Token.name?
  rw [h.kind_eq]

lemma name?_of_kind {t : Token} (h : t.kind = .directiveEnd) : t.name? = none := by
  unfold Token.name?
  rw [h]

lemma stays_identifier (expected : String) : Stays X Y (identifier expected) := by
  have hat : Tracks (Inside X Y) (Yield (fun a b => a.1 = b.1) (Inside X Y))
      (identifierAt expected) (identifierAt expected) := by
    refine Tracks.read (fun t u htu => ?_) fun x t u htu => ?_
    · rw [name?_of_kind htu.left, name?_of_kind htu.right]
      exact Tracks.unexpected
    · rw [htu.name?_eq]
      cases u.name? with
      | none => exact Tracks.unexpected
      | some name => exact Tracks.pure fun A B h => ⟨rfl, h⟩
  exact Tracks.bind_yield hat fun a b hab => Tracks.pure fun A B h => ⟨hab, h⟩

lemma isDirectiveEnd_iff {t : Token} : isDirectiveEnd t = true ↔ t.kind = .directiveEnd := by
  unfold isDirectiveEnd
  split <;> simp_all

/-- Behind the end of the directive the texts go on. -/
lemma tracks_endDirective :
    Tracks (Inside X Y) (fun _ _ => Is X Y) endDirective endDirective := by
  have hexpect : Tracks (Inside X Y) (fun _ _ => Is X Y)
      (expect isDirectiveEnd "end of directive") (expect isDirectiveEnd "end of directive") := by
    refine Tracks.inside (Tracks.bind_yield (tracks_next _ _) fun t u htu => ?_) fun x =>
      Tracks.upon fun A B hx hmore => Tracks.bind_yield (tracks_next _ _) fun t u htu => ?_
    · rw [if_pos (isDirectiveEnd_iff.mpr (congrArg Shape.kind htu.1)),
        if_pos (isDirectiveEnd_iff.mpr (congrArg Shape.kind htu.2))]
      exact Tracks.pure fun A B => id
    · have hother : ∀ t : Token, t.shape = x → ¬isDirectiveEnd t = true := fun t ht h =>
        hx ((congrArg Shape.kind ht).symm.trans (isDirectiveEnd_iff.mp h))
      rw [if_neg (hother t htu.1), if_neg (hother u htu.2)]
      exact Tracks.unexpected
  exact Tracks.bind hexpect fun _ _ => Tracks.pure fun A B => id

/-! ### Repetitions -/

variable {γ : Type}

/-- Says whether another item begins, and takes nothing. -/
abbrev Peeks (X Y : List Shape) (more : Parser (Option γ)) : Prop :=
  Tracks (Inside X Y)
    (fun a b A B => a = b ∧ Inside X Y A B ∧ (a.isSome = true → ∃ x, Upon x X Y A B)) more more

lemma Outcome.cases {Q : α → β → Ahead} {ts us : List Token}
    {x : Except SyntaxError (Parsed α ts)} {y : Except SyntaxError (Parsed β us)}
    (h : Outcome Q x y) :
    (∃ e e', x = .error e ∧ y = .error e') ∨
      ∃ r r', x = .ok r ∧ y = .ok r' ∧
        Q r.value r'.value (r.rest.map Token.shape) (r'.rest.map Token.shape) := by
  cases h with
  | error => exact .inl ⟨_, _, rfl, rfl⟩
  | ok h => exact .inr ⟨_, _, rfl, rfl, h⟩

lemma stays_repeatWhile {more : Parser (Option γ)} {item : γ → Token → Parser (α × Bool)}
    (hmore : Peeks X Y more)
    (hitem : ∀ x b t u, Alike x t u →
      Tracks (Inside X Y) (Same (Inside X Y)) (item b t) (item b u)) :
    Stays X Y (repeatWhile more item) := by
  intro s s' hs ts us h
  induction hn : ts.length using Nat.strongRecOn generalizing ts us with
  | ind n ih =>
  subst hn
  rw [repeatWhile.eq_def, repeatWhile.eq_def]
  rcases (hmore hs h).cases with
    ⟨e, e', hr, hr'⟩ | ⟨⟨b, ts', hts⟩, ⟨b', us', hus⟩, hr, hr', rfl, hin, hupon⟩
  · rw [hr, hr']
    exact .error
  rw [hr, hr']
  cases b with
  | none => exact .ok ⟨rfl, hin⟩
  | some b =>
    obtain ⟨x, A', B', hx, hbehind, hA, hB⟩ := hupon rfl
    obtain ⟨t, ts'', rfl, ht, rfl⟩ := exists_token hA
    obtain ⟨u, us'', rfl, hu, rfl⟩ := exists_token hB
    dsimp only
    rcases (hitem x b t u ⟨ht, hu⟩ hs hbehind).cases with
      ⟨e, e', hr, hr'⟩ |
      ⟨⟨⟨a, again⟩, rest, hrest⟩, ⟨⟨a', again'⟩, rest', hrest'⟩, hr, hr', hsame, hin'⟩
    · rw [hr, hr']
      exact .error
    cases hsame
    rw [hr, hr']
    cases again with
    | false => exact .ok ⟨rfl, hin'⟩
    | true =>
      have hlt : rest.length < ts.length := length_lt_of_suffix_cons hts hrest
      dsimp only
      rcases (ih _ hlt hin' rfl).cases with
        ⟨e, e', hr, hr'⟩ | ⟨⟨as, last, hlast⟩, ⟨as', last', hlast'⟩, hr, hr', hsame, hin''⟩
      · rw [hr, hr']
        exact .error
      · cases hsame
        rw [hr, hr']
        exact .ok ⟨rfl, hin''⟩

lemma Tracks.repeatWhile_nil {more : Parser (Option γ)} {item : γ → Token → Parser (α × Bool)}
    {more' : Parser (Option γ)} {item' : γ → Token → Parser (β × Bool)}
    (h : Tracks P (Yield (fun a b => a = none ∧ b = none) M) more more') :
    Tracks P (Yield (fun as bs => as = [] ∧ bs = []) M) (repeatWhile more item)
      (repeatWhile more' item') := by
  intro s s' hs ts us hP
  rw [repeatWhile.eq_def, repeatWhile.eq_def]
  rcases (h hs hP).cases with
    ⟨e, e', hr, hr'⟩ | ⟨⟨a, rest, hrest⟩, ⟨b, rest', hrest'⟩, hr, hr', ⟨ha, hb⟩, hM⟩
  · rw [hr, hr']
    exact .error
  · cases ha
    cases hb
    rw [hr, hr']
    exact .ok ⟨⟨rfl, rfl⟩, hM⟩

lemma Tracks.repeatWhile_cons {x y : Shape} {b : γ} {C : α → β → Prop} {D : List α → List β → Prop}
    {N : Ahead} {more : Parser (Option γ)} {item : γ → Token → Parser (α × Bool)}
    {item' : γ → Token → Parser (β × Bool)}
    (hmore : Tracks (Is (x :: X) (y :: Y))
      (Yield (fun a a' => a = some b ∧ a' = some b) (Is (x :: X) (y :: Y))) more more)
    (hitem : ∀ t u, t.shape = x → u.shape = y →
      Tracks (Is X Y) (Yield (fun r r' => r.2 = true ∧ r'.2 = true ∧ C r.1 r'.1) N) (item b t)
        (item' b u))
    (hagain : Tracks N (Yield D M) (repeatWhile more item) (repeatWhile more item')) :
    Tracks (Is (x :: X) (y :: Y))
      (Yield (fun as bs => ∃ a as' b bs', as = a :: as' ∧ bs = b :: bs' ∧ C a b ∧ D as' bs') M)
      (repeatWhile more item) (repeatWhile more item') := by
  intro s s' hs ts us hP
  rw [repeatWhile.eq_def, repeatWhile.eq_def]
  rcases (hmore hs hP).cases with
    ⟨e, e', hr, hr'⟩ | ⟨⟨a, ts', hts⟩, ⟨a', us', hus⟩, hr, hr', ⟨ha, ha'⟩, hA, hB⟩
  · rw [hr, hr']
    exact .error
  cases ha
  cases ha'
  obtain ⟨t, ts', rfl, ht, hts'⟩ := exists_token hA
  obtain ⟨u, us', rfl, hu, hus'⟩ := exists_token hB
  rw [hr, hr']
  dsimp only
  rcases (hitem t u ht hu hs ⟨hts', hus'⟩).cases with
    ⟨e, e', hr, hr'⟩ |
    ⟨⟨⟨a, go⟩, rest, hrest⟩, ⟨⟨a', go'⟩, rest', hrest'⟩, hr, hr', ⟨hgo, hgo', hC⟩, hN⟩
  · rw [hr, hr']
    exact .error
  cases hgo
  cases hgo'
  rw [hr, hr']
  dsimp only
  rcases (hagain hs hN).cases with
    ⟨e, e', hr, hr'⟩ | ⟨⟨as, last, hlast⟩, ⟨bs, last', hlast'⟩, hr, hr', hD, hM⟩
  · rw [hr, hr']
    exact .error
  · rw [hr, hr']
    exact .ok ⟨⟨a, as, a', bs, rfl, rfl, hC, hD⟩, hM⟩

lemma Inside.exists_token {p : Token → Bool} (hp : ByKind p) {ts us : List Token}
    (h : Inside X Y (ts.map Token.shape) (us.map Token.shape)) :
    ∃ t ts' u us', ts = t :: ts' ∧ us = u :: us' ∧ p t = p u ∧
      (p t = true → Inside X Y (ts'.map Token.shape) (us'.map Token.shape)) := by
  generalize hts : ts.map Token.shape = A at h
  generalize hus : us.map Token.shape = B at h
  cases h with
  | done =>
    obtain ⟨t, ts, rfl, ht, -⟩ := Parser.exists_token hts
    obtain ⟨u, us, rfl, hu, -⟩ := Parser.exists_token hus
    have ht := hp.ends t (congrArg Shape.kind ht)
    have hu := hp.ends u (congrArg Shape.kind hu)
    exact ⟨t, ts, u, us, rfl, rfl, ht.trans hu.symm, fun h => by rw [ht] at h; cases h⟩
  | token hx hmore =>
    obtain ⟨t, ts, rfl, ht, rfl⟩ := Parser.exists_token hts
    obtain ⟨u, us, rfl, hu, rfl⟩ := Parser.exists_token hus
    exact ⟨t, ts, u, us, rfl, rfl, hp.same t u (Alike.kind_eq ⟨ht, hu⟩), fun _ => hmore⟩

lemma stays_commaList {item : Parser α} (hitem : Stays X Y item) (close : Symbol)
    (expected : String) : Stays X Y (commaList close expected item) := by
  intro s s' hs ts us h
  induction hn : ts.length using Nat.strongRecOn generalizing ts us with
  | ind n ih =>
  subst hn
  rw [commaList.eq_def, commaList.eq_def]
  rcases (stays_eat (byKind_isSymbol close) hs h).cases with
    ⟨e, e', hr, hr'⟩ | ⟨⟨b, ts', hts⟩, ⟨b', us', hus⟩, hr, hr', hsame, hin⟩
  · rw [hr, hr']
    exact .error
  cases hsame
  rw [hr, hr']
  cases b with
  | true => exact .ok ⟨rfl, hin⟩
  | false =>
    dsimp only
    rcases (hitem hs hin).cases with
      ⟨e, e', hr, hr'⟩ | ⟨⟨a, rest, hrest⟩, ⟨a', rest', hrest'⟩, hr, hr', hsame, hin'⟩
    · rw [hr, hr']
      exact .error
    cases hsame
    rw [hr, hr']
    obtain ⟨t, ts'', u, us'', rfl, rfl, htu, hcomma⟩ := hin'.exists_token (byKind_isSymbol .comma)
    dsimp only
    rw [← htu]
    split
    · rename_i ht
      have hlt : ts''.length < ts.length :=
        length_lt_of_suffix_cons (hrest.trans hts) List.suffix_rfl
      rcases (ih _ hlt (hcomma ht) rfl).cases with
        ⟨e, e', hr, hr'⟩ | ⟨⟨as, last, hlast⟩, ⟨as', last', hlast'⟩, hr, hr', hsame, hin''⟩
      · rw [hr, hr']
        exact .error
      · cases hsame
        rw [hr, hr']
        exact .ok ⟨rfl, hin''⟩
    · rcases (tracks_expect (byKind_isSymbol close) expected hs hin').cases with
        ⟨e, e', hr, hr'⟩ | ⟨r, r', hr, hr', hin''⟩
      · rw [hr, hr']
        exact .error
      · rw [hr, hr']
        exact .ok ⟨rfl, hin''⟩

end Stencil.Parser
