import Stencil.Proofs.Course

/-! With a smaller budget a parser does what it does with a larger one, or it gives up because the
nesting is too deep. -/
namespace Stencil

namespace Parser

variable {α β γ : Type} {s : Source} {ts rest : List Token}

/-- On these tokens the one parser does what the other does, or gives up because the nesting is too
deep. -/
def FollowsAt (s : Source) (ts : List Token) (p q : Parser α) : Prop :=
  p.outcome s ts = q.outcome s ts ∨
    ∃ pos, p.outcome s ts = .error (.parse (.tooDeep maxNesting pos))

/-- In all texts that can be read the one parser does what the other does, or gives up because the
nesting is too deep. -/
def Follows (p q : Parser α) : Prop := ∀ ⦃s⦄, s.fault = none → ∀ ts, FollowsAt s ts p q

/-- The parser with the smaller budget follows the other one. -/
def Rising (p q : Nat → Parser α) : Prop := ∀ ⦃n m⦄, n ≤ m → Follows (p n) (q m)

lemma FollowsAt.bind {p q : Parser α} {f g : α → Parser β} (h : FollowsAt s ts p q)
    (hf : ∀ a rest, q.outcome s ts = .ok (a, rest) → FollowsAt s rest (f a) (g a)) :
    FollowsAt s ts (p >>= f) (q >>= g) := by
  obtain h | ⟨pos, h⟩ := h
  · unfold FollowsAt
    cases hq : q.outcome s ts with
    | error e =>
      rw [outcome_bind_error (h.trans hq), outcome_bind_error hq]
      exact .inl rfl
    | ok r =>
      obtain ⟨a, rest⟩ := r
      rw [outcome_bind_ok (h.trans hq), outcome_bind_ok hq]
      exact hf a rest hq
  · exact .inr ⟨pos, outcome_bind_error h f⟩

lemma FollowsAt.of_eq {p q p' q' : Parser α} (h : FollowsAt s rest p' q')
    (hp : p.outcome s ts = p'.outcome s rest) (hq : q.outcome s ts = q'.outcome s rest) :
    FollowsAt s ts p q := by
  unfold FollowsAt
  rw [hp, hq]
  exact h

namespace Follows

lemma refl (p : Parser α) : Follows p p := fun _ _ _ => .inl rfl

lemma tooDeep (q : Parser α) : Follows Parser.tooDeep q := by
  intro s hs ts
  cases ts with
  | cons t ts => exact .inr ⟨t.pos, rfl⟩
  | nil =>
    refine .inr ⟨s.stop, ?_⟩
    unfold outcome Parser.tooDeep atEnd
    rw [hs]
    rfl

lemma bind {p q : Parser α} {f g : α → Parser β} (h : Follows p q)
    (hf : ∀ a, Follows (f a) (g a)) : Follows (p >>= f) (q >>= g) :=
  fun _ hs ts => (h hs ts).bind fun a rest _ => hf a hs rest

/-- Behind a step that is the same in both. -/
lemma after {p : Parser α} {f g : α → Parser β} (hf : ∀ a, Follows (f a) (g a)) :
    Follows (p >>= f) (p >>= g) :=
  (refl p).bind hf

/-- Before steps that are the same in both. -/
lemma before {p q : Parser α} {f : α → Parser β} (h : Follows p q) :
    Follows (p >>= f) (q >>= f) :=
  h.bind fun a => refl (f a)

lemma ite {c : Prop} [Decidable c] {p p' q q' : Parser α} (hp : Follows p p')
    (hq : Follows q q') : Follows (if c then p else q) (if c then p' else q') := by
  split
  · exact hp
  · exact hq

lemma repeatWhile {more : Parser (Option γ)} {item item' : γ → Token → Parser (α × Bool)}
    (h : ∀ b t, Follows (item b t) (item' b t)) :
    Follows (Parser.repeatWhile more item) (Parser.repeatWhile more item') := by
  intro s hs ts
  induction hn : ts.length using Nat.strongRecOn generalizing ts with
  | ind n ih =>
  subst hn
  cases hmore : more.outcome s ts with
  | error e => exact .inl ((repeatWhile_error hmore).trans (repeatWhile_error hmore).symm)
  | ok r =>
    obtain ⟨b, rest⟩ := r
    cases b with
    | none => exact .inl ((repeatWhile_none hmore).trans (repeatWhile_none hmore).symm)
    | some b =>
      cases rest with
      | nil => exact .inl ((repeatWhile_nil hmore).trans (repeatWhile_nil hmore).symm)
      | cons t rest =>
        refine FollowsAt.of_eq ?_ (repeatWhile_some hmore) (repeatWhile_some hmore)
        refine (h b t hs rest).bind fun r rest' hitem => ?_
        have hlt : rest'.length < ts.length := by
          have hrest := (suffix_of_outcome hitem).length_le
          have hts := (suffix_of_outcome hmore).length_le
          rw [List.length_cons] at hts
          omega
        split
        · exact (ih _ hlt rest' rfl).bind fun as rest _ => .inl rfl
        · exact .inl rfl

end Follows

/-- What is eaten is gone. -/
lemma length_lt_of_eat {p : Token → Bool} (h : (eat p).outcome s ts = .ok (true, rest)) :
    rest.length < ts.length := by
  cases ts with
  | nil =>
    rw [outcome_eat_nil] at h
    cases hfault : s.fault <;> rw [hfault] at h <;> cases h
  | cons t ts =>
    rw [outcome_eat_cons] at h
    obtain ⟨ht, hrest⟩ := Prod.mk.inj (Except.ok.inj h)
    rw [ht, if_pos rfl] at hrest
    rw [← hrest]
    exact Nat.lt_succ_self _

lemma Follows.commaList {item item' : Parser α} (h : Follows item item') (close : Symbol)
    (expected : String) :
    Follows (Parser.commaList close expected item) (Parser.commaList close expected item') := by
  intro s hs ts
  induction hn : ts.length using Nat.strongRecOn generalizing ts with
  | ind n ih =>
  subst hn
  rw [commaList_eq close expected item, commaList_eq close expected item']
  refine FollowsAt.bind (.inl rfl) fun found rest hclose => ?_
  split
  · exact .inl rfl
  refine (h hs rest).bind fun a rest' hitem => ?_
  refine FollowsAt.bind (.inl rfl) fun again rest'' hcomma => ?_
  cases again with
  | false => exact .inl rfl
  | true =>
    have hlt : rest''.length < ts.length := by
      have hclose := (suffix_of_outcome hclose).length_le
      have hitem := (suffix_of_outcome hitem).length_le
      have hcomma := length_lt_of_eat hcomma
      omega
    exact (ih _ hlt rest'' rfl).bind fun as rest _ => .inl rfl

end Parser

namespace Expr

open Stencil.Parser

variable {α : Type}

/-! ### Operators -/

lemma follows_suffixes {operator : Parser (Option α)} {apply apply' : α → Nat → Expr → Parser Expr}
    (h : ∀ o e, Rising (apply o · e) (apply' o · e)) {n m : Nat} (hnm : n ≤ m) (e : Expr) :
    Follows (suffixes operator apply n e) (suffixes operator apply' m e) := by
  induction n generalizing m e with
  | zero =>
    cases m with
    | zero => exact .refl _
    | succ m =>
      refine .after fun o => ?_
      cases o with
      | none => exact .refl _
      | some o => exact .tooDeep _
  | succ n ih =>
    obtain ⟨m, rfl⟩ := Nat.exists_eq_add_of_le' hnm
    have hnm : n ≤ m + n := Nat.le_add_left n m
    refine .after fun o => ?_
    cases o with
    | none => exact .refl _
    | some o => exact (h o e hnm).bind (ih hnm)

variable {expr expr' operand operand' : Nat → Parser Expr}

lemma rising_leftAssoc (ops : Token.Kind → Option BinaryOp) (h : Rising operand operand') :
    Rising (leftAssoc ops operand) (leftAssoc ops operand') := by
  intro n m hnm
  refine (h hnm).bind (follows_suffixes ?_ hnm)
  exact fun op e n m hnm => (h hnm).before

/-! ### Comparisons and tests -/

lemma follows_arguments? {p q : Parser Expr} (h : Follows p q) :
    Follows (arguments? p) (arguments? q) :=
  .after fun _ => .ite (h.commaList _ _) (.refl _)

lemma follows_testOf {p q : Parser Expr} (h : Follows p q) (e : Expr) :
    Follows (testOf p e) (testOf q e) :=
  .after fun _ => .after fun _ => (follows_arguments? h).before

lemma rising_comparisons (hexpr : Rising expr expr') (h : Rising operand operand') :
    Rising (comparisons expr operand) (comparisons expr' operand') := by
  intro n m hnm
  refine (h hnm).bind (follows_suffixes ?_ hnm)
  intro op e n m hnm
  cases op with
  | binary op => exact (h hnm).before
  | test => exact follows_testOf (hexpr hnm) e

lemma rising_prefixed (h : Rising operand operand') :
    Rising (prefixed operand) (prefixed operand') := by
  intro n
  induction n with
  | zero =>
    intro m hm
    cases m with
    | zero =>
      exact .after fun _ => .ite (.refl _) (.after fun _ => .ite (.refl _) (h hm))
    | succ m =>
      exact .after fun _ => .ite (.tooDeep _) (.after fun _ => .ite (.tooDeep _) (h hm))
  | succ n ih =>
    intro m hnm
    obtain ⟨m, rfl⟩ := Nat.exists_eq_add_of_le' hnm
    have hprefixed := ih (Nat.le_add_left n m)
    exact .after fun _ => .ite hprefixed.before
      (.after fun _ => .ite hprefixed.before (h hnm))

/-! ### Primaries and what follows them -/

section Single

variable {p q : Parser Expr} (h : Follows p q)
include h

lemma follows_callOf (e : Expr) : Follows (callOf p e) (callOf q e) := by
  refine .after fun t => ?_
  split
  · exact (h.commaList _ _).before
  · exact (h.commaList _ _).before
  · exact .refl _

lemma follows_suffixOf (s : Suffix) (e : Expr) : Follows (suffixOf p s e) (suffixOf q s e) := by
  cases s with
  | member => exact .refl _
  | index => exact .after fun _ => h.before
  | call => exact follows_callOf h e
  | filter => exact .after fun _ => .after fun _ => (follows_arguments? h).before

lemma follows_primary : Follows (primary p) (primary q) := by
  refine .after fun t => ?_
  split
  iterate 7
    · exact .refl _
  · exact h.before
  · exact (h.commaList _ _).before
  · refine Follows.before (Follows.commaList ?_ _ _)
    exact h.bind fun key => .after fun _ => h.before
  · exact .refl _

lemma follows_conditional {operand operand' : Parser Expr} (hoperand : Follows operand operand') :
    Follows (conditional p operand) (conditional q operand') :=
  hoperand.bind fun _ => .after fun _ =>
    .ite (hoperand.bind fun _ => .after fun _ => .ite h.before (.refl _)) (.refl _)

end Single

lemma rising_postfixed (h : Rising expr expr') : Rising (postfixed expr) (postfixed expr') :=
  fun _ _ hnm => (follows_primary (h hnm)).bind
    (follows_suffixes (fun s e _ _ hnm => follows_suffixOf (h hnm) s e) hnm)

/-! ### Expressions -/

lemma rising_operators (h : Rising expr expr') : Rising (operators expr) (operators expr') := by
  have hprefixed := rising_prefixed (rising_postfixed h)
  have hconcat := rising_leftAssoc concatOp?
    (rising_leftAssoc additiveOp? (rising_leftAssoc multiplicativeOp? hprefixed))
  exact rising_leftAssoc orOp? (rising_leftAssoc andOp? (rising_comparisons h hconcat))

/-- A budget counts up to the bound. -/
lemma parserUpTo_eq (bound budget : Nat) :
    parserUpTo bound budget = parser (min bound budget) := by
  induction bound with
  | zero => rw [Nat.zero_min, parser, parserUpTo, parserUpTo]
  | succ n ih =>
    rw [parserUpTo]
    split
    · rename_i hle
      rw [ih, Nat.min_eq_right hle, Nat.min_eq_right (Nat.le_succ_of_le hle)]
    · rename_i hlt
      rw [Nat.min_eq_left (Nat.lt_of_not_le hlt), parser, parserUpTo,
        if_neg (Nat.not_succ_le_self n)]

/-- Expressions that are not nested too deep are read alike with all budgets. -/
theorem rising_all : Rising parser parser := by
  intro n
  induction n using Nat.strongRecOn with
  | ind n ih =>
  intro m hnm
  cases n with
  | zero => exact .tooDeep _
  | succ n =>
    obtain ⟨m, rfl⟩ := Nat.exists_eq_add_of_le' hnm
    have hnm : n ≤ m + n := Nat.le_add_left n m
    have hinner : Rising (parserUpTo n) (parserUpTo (m + n)) := by
      intro i j hij
      rw [parserUpTo_eq, parserUpTo_eq]
      refine ih _ (Nat.lt_succ_of_le (Nat.min_le_left n i)) ?_
      omega
    change Follows (parserUpTo (n + 1) (n + 1)) (parserUpTo (m + n + 1) (m + n + 1))
    rw [parserUpTo, parserUpTo, if_neg (Nat.not_succ_le_self n),
      if_neg (Nat.not_succ_le_self (m + n))]
    exact follows_conditional (hinner hnm) (rising_operators hinner hnm)

end Expr

namespace Node

open Stencil.Parser

/-! ### Headings -/

section Single

variable {p q : Parser Expr} (h : Follows p q)
include h

lemma follows_interpolated : Follows (interpolated p) (interpolated q) := h.before

lemma follows_condition : Follows (condition p) (condition q) := h.before

lemma follows_parameter : Follows (parameter p) (parameter q) :=
  .after fun _ => .after fun _ => .ite h.before (.refl _)

lemma follows_filterCall : Follows (filterCall p) (filterCall q) :=
  .after fun _ => (Expr.follows_arguments? h).before

lemma follows_filterChain : Follows (filterChain p) (filterChain q) :=
  (follows_filterCall h).bind fun _ =>
    (Follows.repeatWhile fun _ _ => (follows_filterCall h).before).before

lemma follows_bindings : Follows (bindings p) (bindings q) :=
  .repeatWhile fun _ _ => .after fun _ => h.before

lemma follows_heading (pos : Position) (name : String) :
    Follows (heading p pos name) (heading q pos name) := by
  unfold heading
  split
  · exact h.before
  · simp only [pure_bind]
    exact .after fun _ => .after fun _ => .ite (.after fun _ => .after fun _ => h.before)
      (.after fun _ => h.before)
  · exact .after fun _ => .after fun _ => ((follows_parameter h).commaList _ _).before
  · exact h.before
  iterate 2
    · exact .after fun _ => .after fun _ => h.before
  · exact .refl _
  iterate 3
    · exact h.before
  · exact .refl _
  · exact (follows_filterChain h).before
  · exact .refl _
  · exact (follows_bindings h).before
  iterate 3
    · exact .refl _

end Single

end Node

end Stencil
