import Stencil.Proofs.Budgets
import Stencil.Proofs.Except

/-! Parsers with more tokens behind those they read. As long as a parser does not come to the end of
its tokens it reads the same when others follow, for it looks no further than it has to. -/
namespace Stencil

/-- Whether a token is only understood together with the next one. -/
def Token.leans (t : Token) : Bool :=
  match t.kind with
  | .keyword .not | .directiveStart => true
  | _ => false

namespace Parser

variable {α β γ : Type} {s s' : Source} {ts rest : List Token} {a : α} {p : Parser α}
  {f : α → Parser β}

/-- What is left where a parser may have met the end of its tokens. -/
def Spent (ts : List Token) : Prop := ts = [] ∨ ∃ t, ts = [t] ∧ t.leans = true

/-- The parser reads the same whatever follows its tokens. -/
def Carries (s : Source) (ts : List Token) (p : Parser α) (a : α) (rest : List Token) : Prop :=
  ∀ s' : Source, s'.dialect = s.dialect → ∀ more,
    p.outcome s' (ts ++ more) = .ok (a, rest ++ more)

/-- On these tokens the parser comes to their end, fails, or reads the same whatever follows. -/
def SteadyAt (s : Source) (ts : List Token) (p : Parser α) : Prop :=
  ∀ ⦃a rest⦄, p.outcome s ts = .ok (a, rest) → Spent rest ∨ Carries s ts p a rest

/-- What the parser reads without coming to the end of its tokens it reads whatever follows. -/
def Steady (p : Parser α) : Prop := ∀ s ts, SteadyAt s ts p

/-- What the parser reads it reads whatever follows. -/
def Lasting (p : Parser α) : Prop :=
  ∀ ⦃s ts a rest⦄, p.outcome s ts = .ok (a, rest) → Carries s ts p a rest

/-- What the parser reads it reads whatever follows, and it reads nothing where another parser may
have met the end of the tokens. -/
def Settling (p : Parser α) : Prop :=
  ∀ ⦃s ts a rest⦄, p.outcome s ts = .ok (a, rest) → ¬ Spent ts ∧ Carries s ts p a rest

lemma Spent.of_suffix (h : Spent ts) (hrest : rest <:+ ts) : Spent rest := by
  obtain rfl | ⟨t, rfl, ht⟩ := h
  · exact .inl (List.suffix_nil.mp hrest)
  · obtain rfl | hrest := List.suffix_cons_iff.mp hrest
    · exact .inr ⟨t, rfl, ht⟩
    · exact .inl (List.suffix_nil.mp hrest)

/-- What a success of two parsers says about each of them. -/
lemma exists_of_outcome_bind {b : β} (h : (p >>= f).outcome s ts = .ok (b, rest)) :
    ∃ a mid, p.outcome s ts = .ok (a, mid) ∧ (f a).outcome s mid = .ok (b, rest) := by
  rw [outcome_bind] at h
  obtain ⟨⟨a, mid⟩, hp, hf⟩ := Except.exists_of_bind h
  exact ⟨a, mid, hp, hf⟩

lemma exists_of_outcome_map {g : α → β} {b : β}
    (h : (p >>= fun a => pure (g a)).outcome s ts = .ok (b, rest)) :
    ∃ a, p.outcome s ts = .ok (a, rest) ∧ g a = b := by
  obtain ⟨a, mid, hp, hg⟩ := exists_of_outcome_bind h
  obtain ⟨rfl, rfl⟩ := Prod.mk.inj (Except.ok.inj hg)
  exact ⟨a, hp, rfl⟩

lemma Carries.bind {b : β} {mid : List Token} (h : Carries s ts p a mid)
    (hf : Carries s mid (f a) b rest) : Carries s ts (p >>= f) b rest :=
  fun s' hs more => (outcome_bind_ok (h s' hs more) f).trans (hf s' hs more)

/-! ### Steps one after another -/

lemma SteadyAt.bind (h : SteadyAt s ts p)
    (hf : ∀ a mid, p.outcome s ts = .ok (a, mid) → SteadyAt s mid (f a)) :
    SteadyAt s ts (p >>= f) := by
  intro b rest hread
  obtain ⟨a, mid, hp, hread⟩ := exists_of_outcome_bind hread
  obtain hspent | hp' := h hp
  · exact .inl (hspent.of_suffix (suffix_of_outcome hread))
  · exact (hf a mid hp hread).imp_right hp'.bind

lemma Settling.lasting (h : Settling p) : Lasting p := fun _ _ _ _ hp => (h hp).2

lemma Lasting.steady (h : Lasting p) : Steady p := fun _ _ _ _ hp => .inr (h hp)

lemma Settling.steady (h : Settling p) : Steady p := h.lasting.steady

namespace Steady

lemma bind (h : Steady p) (hf : ∀ a, Steady (f a)) : Steady (p >>= f) :=
  fun s ts => (h s ts).bind fun a mid _ => hf a s mid

lemma ite {c : Prop} [Decidable c] {q : Parser α} (hp : Steady p) (hq : Steady q) :
    Steady (if c then p else q) := by
  split
  · exact hp
  · exact hq

/-- Behind a parser that may have met the end, one that reads nothing there. -/
lemma before (h : Steady p) (hf : ∀ a, Settling (f a)) : Settling (p >>= f) := by
  intro s ts b rest hread
  obtain ⟨a, mid, hp, hread⟩ := exists_of_outcome_bind hread
  obtain ⟨hmid, hf'⟩ := hf a hread
  refine ⟨fun hts => hmid (hts.of_suffix (suffix_of_outcome hp)), ?_⟩
  exact ((h s ts hp).resolve_left hmid).bind hf'

end Steady

lemma Settling.bind (h : Settling p) (hf : ∀ a, Lasting (f a)) : Settling (p >>= f) := by
  intro s ts b rest hread
  obtain ⟨a, mid, hp, hread⟩ := exists_of_outcome_bind hread
  obtain ⟨hts, hp'⟩ := h hp
  exact ⟨hts, hp'.bind (hf a hread)⟩

lemma Settling.ite {c : Prop} [Decidable c] {q : Parser α} (hp : Settling p) (hq : Settling q) :
    Settling (if c then p else q) := by
  split
  · exact hp
  · exact hq

lemma lasting_pure : Lasting (pure a) := by
  rintro s ts _ _ ⟨⟩ s' - more
  rfl

lemma steady_pure : Steady (pure a) := lasting_pure.steady

lemma Settling.map (h : Settling p) (g : α → β) : Settling (p >>= fun a => pure (g a)) :=
  h.bind fun _ => lasting_pure

lemma settling_fail {e : ParseError} : Settling (fail e : Parser α) := nofun

lemma settling_unexpected {t : Token} {expected : String} :
    Settling (unexpected t expected : Parser α) := settling_fail

lemma settling_tooDeep : Settling (tooDeep : Parser α) := by
  intro s ts a rest h
  unfold outcome tooDeep atEnd at h
  cases ts with
  | cons t ts => cases h
  | nil => cases hs : s.fault <;> rw [hs] at h <;> cases h

/-! ### Single tokens -/

lemma steady_dialect : Steady dialect := by
  rintro s ts _ _ ⟨⟩
  exact .inr fun s' hs more => by rw [outcome_dialect, hs]

/-- Behind the last token nothing is left. -/
lemma SteadyAt.nil : SteadyAt s [] p :=
  fun _ _ h => .inl (.inl (List.suffix_nil.mp (suffix_of_outcome h)))

lemma steady_ahead : Steady ahead := by
  intro s ts
  cases ts with
  | nil => exact .nil
  | cons t ts =>
    rintro _ _ ⟨⟩
    exact .inr fun _ _ _ => rfl

lemma steady_next? : Steady next? := by
  intro s ts
  cases ts with
  | nil => exact .nil
  | cons t ts =>
    rintro _ _ ⟨⟩
    exact .inr fun _ _ _ => rfl

lemma lasting_next {expected : String} : Lasting (next expected) := by
  intro s ts t rest h
  cases ts with
  | nil =>
    rw [outcome_next_nil] at h
    cases h
  | cons u ts =>
    cases h
    exact fun _ _ _ => rfl

lemma steady_next {expected : String} : Steady (next expected) := lasting_next.steady

lemma steady_expect {q : Token → Bool} {expected : String} : Steady (expect q expected) :=
  steady_next.bind fun _ => steady_pure.ite settling_unexpected.steady

lemma steady_eat {q : Token → Bool} : Steady (eat q) := by
  refine steady_ahead.bind fun t => ?_
  cases t with
  | none => exact steady_pure
  | some t => exact .ite (steady_next?.bind fun _ => steady_pure) steady_pure

lemma steady_identifierAt {expected : String} : Steady (identifierAt expected) := by
  refine steady_next.bind fun t => ?_
  cases t.name? with
  | none => exact settling_unexpected.steady
  | some name => exact steady_pure

lemma steady_identifier {expected : String} : Steady (identifier expected) :=
  steady_identifierAt.bind fun _ => steady_pure

/-- A token that ends a construct is no part of what leans on the next token. -/
lemma settling_expect {q : Token → Bool} {expected : String}
    (hq : ∀ t : Token, t.leans = true → q t = false) : Settling (expect q expected) := by
  intro s ts t rest h
  cases ts with
  | nil =>
    rw [outcome_expect_nil] at h
    cases h
  | cons u ts =>
    obtain ⟨_, _, ⟨⟩, h⟩ := exists_of_outcome_bind h
    cases hu : q u with
    | false =>
      rw [if_neg (by rw [hu]; nofun)] at h
      cases h
    | true =>
      rw [if_pos hu] at h
      cases h
      refine ⟨?_, fun s' _ more => ?_⟩
      · rintro (hts | ⟨v, hts, hv⟩)
        · cases hts
        · cases hts
          rw [hq u hv] at hu
          cases hu
      · refine (outcome_bind_ok outcome_next_cons _).trans ?_
        rw [if_pos hu]
        rfl

lemma settling_endDirective : Settling endDirective := by
  refine (settling_expect fun t ht => ?_).map fun _ => ()
  unfold isDirectiveEnd
  unfold Token.leans at ht
  split at ht <;> simp_all

/-! ### Repetitions -/

lemma steady_repeatWhile {more : Parser (Option γ)} {item : γ → Token → Parser (α × Bool)}
    (hmore : Steady more) (hitem : ∀ b t, Steady (item b t)) :
    Steady (repeatWhile more item) := by
  intro s ts
  induction hn : ts.length using Nat.strongRecOn generalizing ts with
  | ind n ih =>
  subst hn
  intro as rest hread
  cases hb : more.outcome s ts with
  | error e => cases (repeatWhile_error hb).symm.trans hread
  | ok r =>
    obtain ⟨b, us⟩ := r
    have hsteady := hmore s ts hb
    cases b with
    | none =>
      cases (repeatWhile_none hb).symm.trans hread
      exact hsteady.imp_right fun hcarries s' hs more => repeatWhile_none (hcarries s' hs more)
    | some b =>
      cases us with
      | nil =>
        cases (repeatWhile_nil hb).symm.trans hread
        exact .inl (.inl rfl)
      | cons t us =>
        rw [repeatWhile_some hb] at hread
        have hrest : rest <:+ t :: us := (suffix_of_outcome hread).trans (List.suffix_cons t us)
        obtain hspent | hcarries := hsteady
        · exact .inl (hspent.of_suffix hrest)
        refine Or.imp_right (fun h s' hs more =>
          (repeatWhile_some (hcarries s' hs more)).trans (h s' hs more)) (SteadyAt.bind
            (hitem b t s us) (fun r mid hr => ?_) hread)
        have hlt : mid.length < ts.length := by
          have hmid := (suffix_of_outcome hr).length_le
          have hts := (suffix_of_outcome hb).length_le
          rw [List.length_cons] at hts
          omega
        split
        · exact (ih _ hlt mid rfl).bind fun as rest _ => steady_pure s rest
        · exact steady_pure s mid

lemma steady_commaList {item : Parser α} (hitem : Steady item) (close : Symbol)
    (expected : String) : Steady (commaList close expected item) := by
  intro s ts
  induction hn : ts.length using Nat.strongRecOn generalizing ts with
  | ind n ih =>
  subst hn
  rw [commaList_eq]
  refine (steady_eat s ts).bind fun found mid hfound => ?_
  split
  · exact steady_pure s mid
  refine (hitem s mid).bind fun a mid' ha => (steady_eat s mid').bind fun again mid'' hagain => ?_
  cases again with
  | false => exact (steady_expect.bind fun _ => steady_pure) s mid''
  | true =>
    have hlt : mid''.length < ts.length := by
      have hmid := (suffix_of_outcome hfound).length_le
      have hmid' := (suffix_of_outcome ha).length_le
      have hmid'' := length_lt_of_eat hagain
      omega
    exact (ih _ hlt mid'' rfl).bind fun as rest _ => steady_pure s rest

end Parser

namespace Expr

open Stencil.Parser

variable {α : Type} {expr : Parser Expr}

/-! ### Operators -/

lemma steady_suffixes {operator : Parser (Option α)} {apply : α → Nat → Expr → Parser Expr}
    (hoperator : Steady operator) (happly : ∀ o n e, Steady (apply o n e)) (n : Nat) (e : Expr) :
    Steady (suffixes operator apply n e) := by
  induction n generalizing e with
  | zero =>
    refine hoperator.bind fun o => ?_
    cases o with
    | none => exact steady_pure
    | some o => exact settling_tooDeep.steady
  | succ n ih =>
    refine hoperator.bind fun o => ?_
    cases o with
    | none => exact steady_pure
    | some o => exact (happly o n e).bind ih

lemma steady_leftAssoc (ops : Token.Kind → Option BinaryOp) {operand : Nat → Parser Expr}
    (h : ∀ n, Steady (operand n)) (n : Nat) : Steady (leftAssoc ops operand n) := by
  refine (h n).bind fun e => steady_suffixes ?_ (fun op m e => ?_) n e
  · refine steady_ahead.bind fun t => ?_
    cases t.bind (ops ·.kind) with
    | none => exact steady_pure
    | some op => exact steady_next?.bind fun _ => steady_pure
  · exact (h m).bind fun e' => steady_pure

/-! ### Comparisons and tests -/

/-- Only `not` is looked behind. -/
lemma steady_notInAhead : Steady notInAhead := by
  intro s ts
  cases ts with
  | nil => exact .nil
  | cons t ts =>
    cases ht : isKeyword .not t with
    | false =>
      have hread : ∀ s us, notInAhead.outcome s (t :: us) = .ok (false, t :: us) := by
        intro s us
        refine (outcome_bind_ok outcome_ahead_cons _).trans ?_
        rw [Option.any_some, ht]
        rfl
      intro b rest h
      cases (hread s ts).symm.trans h
      exact .inr fun s' _ more => hread s' (ts ++ more)
    | true =>
      have hread : ∀ s us, notInAhead.outcome s (t :: us) =
          (do return (← secondAhead).any (isKeyword .isIn) : Parser Bool).outcome s (t :: us) := by
        intro s us
        refine (outcome_bind_ok outcome_ahead_cons _).trans ?_
        rw [Option.any_some, ht]
        rfl
      intro b rest h
      cases ts with
      | nil =>
        have hleans : t.leans = true := by
          unfold isKeyword at ht
          unfold Token.leans
          split at ht <;> simp_all
        exact .inl (Spent.of_suffix (.inr ⟨t, rfl, hleans⟩) (suffix_of_outcome h))
      | cons u ts =>
        cases (hread s (u :: ts)).symm.trans h
        exact .inr fun s' _ more => hread s' (u :: ts ++ more)

lemma steady_comparison? : Steady comparison? := by
  refine steady_ahead.bind fun t => ?_
  cases t with
  | none => exact steady_pure
  | some t =>
    have htaken : ∀ c : Comparison, Steady (do
        let _ ← next?
        pure (some c)) := fun c => steady_next?.bind fun _ => steady_pure
    dsimp only
    cases comparisonOp? t.kind with
    | some op => exact htaken _
    | none =>
      refine .ite (htaken _) (steady_notInAhead.bind fun b => ?_)
      exact .ite (steady_next?.bind fun _ => htaken _) steady_pure

lemma steady_arguments? (h : Steady expr) : Steady (arguments? expr) :=
  steady_eat.bind fun _ => .ite (steady_commaList h _ _) steady_pure

lemma steady_testName : Steady testName := by
  refine steady_next.bind fun t => ?_
  split
  iterate 4
    · exact steady_pure
  · exact settling_unexpected.steady

lemma steady_testOf (h : Steady expr) (e : Expr) : Steady (testOf expr e) :=
  steady_eat.bind fun _ => steady_testName.bind fun _ =>
    (steady_arguments? h).bind fun _ => steady_pure

lemma steady_comparisons {expr operand : Nat → Parser Expr} (hexpr : ∀ n, Steady (expr n))
    (h : ∀ n, Steady (operand n)) (n : Nat) : Steady (comparisons expr operand n) := by
  refine (h n).bind fun e => steady_suffixes steady_comparison? (fun op m e => ?_) n e
  cases op with
  | binary op => exact (h m).bind fun e' => steady_pure
  | test => exact steady_testOf (hexpr m) e

lemma steady_prefixed {operand : Nat → Parser Expr} (h : ∀ n, Steady (operand n)) (n : Nat) :
    Steady (prefixed operand n) := by
  induction n with
  | zero =>
    exact steady_eat.bind fun _ => .ite settling_tooDeep.steady
      (steady_eat.bind fun _ => .ite settling_tooDeep.steady (h 0))
  | succ n ih =>
    have hprefixed : ∀ op, Steady (do return Expr.unary op (← prefixed operand n)) :=
      fun op => ih.bind fun _ => steady_pure
    exact steady_eat.bind fun _ => .ite (hprefixed _)
      (steady_eat.bind fun _ => .ite (hprefixed _) (h (n + 1)))

/-! ### Primaries and what follows them -/

lemma steady_memberOf (e : Expr) : Steady (memberOf e) := by
  refine steady_next.bind fun t => ?_
  split
  · exact steady_pure
  · exact steady_pure
  · split
    · exact steady_pure
    · exact settling_unexpected.steady
  · exact settling_unexpected.steady

lemma steady_callOf (h : Steady expr) (e : Expr) : Steady (callOf expr e) := by
  refine steady_next.bind fun t => ?_
  split
  iterate 2
    · exact (steady_commaList h _ _).bind fun _ => steady_pure
  · exact settling_fail.steady

lemma steady_suffixOf (h : Steady expr) (s : Suffix) (e : Expr) : Steady (suffixOf expr s e) := by
  cases s with
  | member => exact steady_next?.bind fun _ => steady_memberOf e
  | index =>
    exact steady_next?.bind fun _ => h.bind fun _ => steady_expect.bind fun _ => steady_pure
  | call => exact steady_callOf h e
  | filter =>
    exact steady_next?.bind fun _ => steady_identifier.bind fun _ =>
      (steady_arguments? h).bind fun _ => steady_pure

lemma steady_primary (h : Steady expr) : Steady (primary expr) := by
  refine steady_next.bind fun t => ?_
  split
  iterate 7
    · exact steady_pure
  · exact h.bind fun _ => steady_expect.bind fun _ => steady_pure
  · exact (steady_commaList h _ _).bind fun _ => steady_pure
  · refine (steady_commaList ?_ _ _).bind fun _ => steady_pure
    exact h.bind fun _ => steady_expect.bind fun _ => h.bind fun _ => steady_pure
  · exact settling_unexpected.steady

lemma steady_postfixed {expr : Nat → Parser Expr} (h : ∀ n, Steady (expr n)) (n : Nat) :
    Steady (postfixed expr n) := by
  refine (steady_primary (h n)).bind fun e => steady_suffixes ?_ (fun s m e => ?_) n e
  · exact steady_ahead.bind fun _ => steady_pure
  · exact steady_suffixOf (h m) s e

/-! ### Expressions -/

lemma steady_conditional {operand : Parser Expr} (h : Steady expr) (hoperand : Steady operand) :
    Steady (conditional expr operand) :=
  hoperand.bind fun _ => steady_eat.bind fun _ => .ite
    (hoperand.bind fun _ => steady_eat.bind fun _ => .ite (h.bind fun _ => steady_pure) steady_pure)
    steady_pure

lemma steady_operators {expr : Nat → Parser Expr} (h : ∀ n, Steady (expr n)) (n : Nat) :
    Steady (operators expr n) := by
  have hprefixed := steady_prefixed (steady_postfixed h)
  have hconcat := steady_leftAssoc concatOp?
    (steady_leftAssoc additiveOp? (steady_leftAssoc multiplicativeOp? hprefixed))
  exact steady_leftAssoc orOp? (steady_leftAssoc andOp? (steady_comparisons h hconcat)) n

lemma steady_parserUpTo (bound budget : Nat) : Steady (parserUpTo bound budget) := by
  induction bound generalizing budget with
  | zero => exact settling_tooDeep.steady
  | succ n ih =>
    rw [parserUpTo]
    exact .ite (ih budget) (steady_conditional (ih n) (steady_operators ih n))

/-- An expression that is read before the tokens end is read whatever follows them. -/
theorem steady_all (budget : Nat) : Steady (parser budget) := steady_parserUpTo budget budget

end Expr

end Stencil
