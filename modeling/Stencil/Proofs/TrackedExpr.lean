import Stencil.Proofs.Tracks

/-! Expressions inside directives are parsed alike in both dialects. -/
namespace Stencil.Expr

open Stencil.Parser Token

variable {X Y : List Shape} {α : Type}

/-! ### Operators -/

/-- What the operators say of the tokens behind them is kept in `M`. -/
lemma stays_suffixes {operator : Parser (Option α)} {apply : α → Nat → Expr → Parser Expr}
    {M : α → Ahead}
    (hoperator : Tracks (Inside X Y)
      (fun a b A B => a = b ∧ Inside X Y A B ∧ ∀ o, a = some o → M o A B) operator operator)
    (happly : ∀ o n e, Tracks (M o) (Same (Inside X Y)) (apply o n e) (apply o n e)) (n : Nat)
    (e : Expr) : Stays X Y (suffixes operator apply n e) := by
  induction n generalizing e with
  | zero =>
    refine Tracks.bind hoperator fun a b s s' hs ts us h => ?_
    obtain ⟨rfl, hin, -⟩ := h
    cases a with
    | none => exact Tracks.pure (fun A B h => ⟨rfl, h⟩) hs hin
    | some o => exact Tracks.tooDeep hs hin
  | succ n ih =>
    refine Tracks.bind hoperator fun a b s s' hs ts us h => ?_
    obtain ⟨rfl, hin, hM⟩ := h
    cases a with
    | none => exact Tracks.pure (fun A B h => ⟨rfl, h⟩) hs hin
    | some o => exact Tracks.bind_same (happly o n e) ih hs (hM o rfl)

lemma stays_operator? {ops : Token.Kind → Option BinaryOp} (hops : ops .directiveEnd = none) :
    Stays X Y (operator? ops) := by
  refine Tracks.look (fun t u htu => ?_) fun x t u htu => ?_
  · simp only [Option.bind_some, htu.left, htu.right, hops]
    exact Tracks.pure fun A B h => ⟨rfl, h.inside⟩
  · simp only [Option.bind_some, htu.left, htu.right]
    cases ops x.kind with
    | none => exact Tracks.pure fun A B h => ⟨rfl, h.inside⟩
    | some op => exact Tracks.take fun _ _ _ => Tracks.pure fun A B h => ⟨rfl, h⟩

/-- An operator that is taken leaves the parser inside the directive. -/
lemma taken {operator : Parser (Option α)} (h : Stays X Y operator) :
    Tracks (Inside X Y)
      (fun a b A B => a = b ∧ Inside X Y A B ∧ ∀ o, a = some o → Inside X Y A B)
      operator operator :=
  h.mono (fun _ _ => id) fun _ _ _ _ ⟨hab, hin⟩ => ⟨hab, hin, fun _ _ => hin⟩

lemma stays_leftAssoc {ops : Token.Kind → Option BinaryOp} (hops : ops .directiveEnd = none)
    {operand : Nat → Parser Expr} (h : ∀ n, Stays X Y (operand n)) (n : Nat) :
    Stays X Y (leftAssoc ops operand n) := by
  refine Tracks.bind_same (h n) fun e => stays_suffixes (taken (stays_operator? hops)) ?_ n e
  intro op m e
  exact Tracks.bind_same (h m) fun e' => Tracks.pure fun A B h => ⟨rfl, h⟩

/-! ### Comparisons and tests -/

/-- Two tokens of the directive are next. -/
def UponBoth (X Y : List Shape) : Ahead := fun A B =>
  ∃ x y, ∃ A' B' : List Shape, x.kind ≠ .directiveEnd ∧ y.kind ≠ .directiveEnd ∧ Inside X Y A' B' ∧
    Is (x :: y :: A') (x :: y :: B') A B

lemma tracks_notInAhead :
    Tracks (Inside X Y) (fun a b A B => a = b ∧ Inside X Y A B ∧ (a = true → UponBoth X Y A B))
      notInAhead notInAhead := by
  refine Tracks.look (fun t u htu => ?_) fun x t u htu => ?_
  · have hends := (byKind_isKeyword .not).ends
    simp only [Option.any_some, hends t htu.left, hends u htu.right]
    exact Tracks.pure fun A B h => ⟨rfl, h.inside, nofun⟩
  simp only [Option.any_some, (byKind_isKeyword .not).same t u htu.kind_eq]
  refine Tracks.ite (Tracks.upon fun A B hx hmore => ?_)
    (Tracks.pure fun A B h => ⟨rfl, h.inside, nofun⟩)
  cases hmore with
  | done =>
    refine Tracks.bind_yield tracks_secondAhead ?_
    rintro _ _ ⟨t', u', rfl, rfl, htu'⟩
    have hends := (byKind_isKeyword .isIn).ends
    simp only [Option.any_some, hends t' (congrArg Shape.kind htu'.1),
      hends u' (congrArg Shape.kind htu'.2)]
    refine Tracks.pure ?_
    rintro _ _ ⟨rfl, rfl⟩
    exact ⟨rfl, .token hx .done, nofun⟩
  | token hy hmore =>
    refine Tracks.bind_yield tracks_secondAhead ?_
    rintro _ _ ⟨t', u', rfl, rfl, htu'⟩
    simp only [Option.any_some, (byKind_isKeyword .isIn).same t' u' (Alike.kind_eq htu')]
    refine Tracks.pure ?_
    rintro _ _ ⟨rfl, rfl⟩
    exact ⟨rfl, .token hx (.token hy hmore), fun _ => ⟨_, _, _, _, hx, hy, hmore, rfl, rfl⟩⟩

/-- Behind a token that is no operator there may still be one of two words. -/
lemma stays_notIn :
    Stays X Y (do
      if ← notInAhead then
        let _ ← next?
        let _ ← next?
        pure (some (Comparison.binary .notIn))
      else pure none) := by
  refine Tracks.bind tracks_notInAhead fun a b s s' hs ts us h => ?_
  obtain ⟨rfl, hin, hboth⟩ := h
  cases a with
  | false => exact Tracks.pure (fun A B h => ⟨rfl, h⟩) hs hin
  | true =>
    obtain ⟨x, y, A, B, hx, hy, hmore, hAB⟩ := hboth rfl
    refine Tracks.bind_yield tracks_next? (fun _ _ _ => Tracks.bind_yield tracks_next?
      fun _ _ _ => Tracks.pure ?_) hs hAB
    rintro _ _ ⟨rfl, rfl⟩
    exact ⟨rfl, hmore⟩

lemma stays_comparison? : Stays X Y comparison? := by
  refine Tracks.look (fun t u htu => ?_) fun x t u htu => ?_
  · have hends := (byKind_isKeyword .is).ends
    simp only [htu.left, htu.right, comparisonOp?, hends t htu.left, hends u htu.right]
    exact stays_notIn.of_imp fun A B => Closing.inside
  · simp only [htu.left, htu.right, (byKind_isKeyword .is).same t u htu.kind_eq]
    cases comparisonOp? x.kind with
    | some op => exact Tracks.take fun _ _ _ => Tracks.pure fun A B h => ⟨rfl, h⟩
    | none =>
      refine Tracks.ite (Tracks.take fun _ _ _ => Tracks.pure fun A B h => ⟨rfl, h⟩) ?_
      exact stays_notIn.of_imp fun A B => Upon.inside

variable {expr : Parser Expr}

lemma stays_arguments (h : Stays X Y expr) : Stays X Y (arguments expr) :=
  stays_commaList h _ _

lemma stays_arguments? (h : Stays X Y expr) : Stays X Y (arguments? expr) := by
  refine Tracks.bind_same (stays_eat (byKind_isSymbol _)) fun b => ?_
  exact Tracks.ite (stays_arguments h) (Tracks.pure fun A B h => ⟨rfl, h⟩)

lemma stays_testName : Stays X Y testName := by
  refine Tracks.read (fun t u htu => ?_) fun x t u htu => ?_
  · simp only [htu.left, htu.right]
    exact Tracks.unexpected
  · obtain ⟨kind, lexeme, offset, pos⟩ := t
    obtain ⟨kind', lexeme', offset', pos'⟩ := u
    obtain rfl : kind = kind' := htu.kind_eq
    have hspelling := congrArg Shape.spelling (htu.1.trans htu.2.symm)
    dsimp only
    split
    · exact Tracks.pure fun A B h => ⟨rfl, h⟩
    · obtain rfl : lexeme = lexeme' := Option.some.inj hspelling
      exact Tracks.pure fun A B h => ⟨rfl, h⟩
    · obtain rfl : lexeme = lexeme' := Option.some.inj hspelling
      exact Tracks.pure fun A B h => ⟨rfl, h⟩
    · obtain rfl : lexeme = lexeme' := Option.some.inj hspelling
      exact Tracks.pure fun A B h => ⟨rfl, h⟩
    · exact Tracks.unexpected

lemma stays_testOf (h : Stays X Y expr) (e : Expr) : Stays X Y (testOf expr e) := by
  refine Tracks.bind_same (stays_eat (byKind_isKeyword _)) fun negated => ?_
  refine Tracks.bind_same stays_testName fun name => ?_
  exact Tracks.bind_same (stays_arguments? h) fun args => Tracks.pure fun A B h => ⟨rfl, h⟩

lemma stays_comparisons {expr operand : Nat → Parser Expr} (hexpr : ∀ n, Stays X Y (expr n))
    (h : ∀ n, Stays X Y (operand n)) (n : Nat) : Stays X Y (comparisons expr operand n) := by
  refine Tracks.bind_same (h n) fun e => stays_suffixes (taken stays_comparison?) ?_ n e
  intro op m e
  cases op with
  | binary op => exact Tracks.bind_same (h m) fun e' => Tracks.pure fun A B h => ⟨rfl, h⟩
  | test => exact stays_testOf (hexpr m) e

lemma stays_prefixed {operand : Nat → Parser Expr} (h : ∀ n, Stays X Y (operand n)) (n : Nat) :
    Stays X Y (prefixed operand n) := by
  induction n with
  | zero =>
    refine Tracks.bind_same (stays_eat (byKind_isKeyword _)) fun b => ?_
    refine Tracks.ite Tracks.tooDeep ?_
    refine Tracks.bind_same (stays_eat (byKind_isSymbol _)) fun b => ?_
    exact Tracks.ite Tracks.tooDeep (h 0)
  | succ n ih =>
    refine Tracks.bind_same (stays_eat (byKind_isKeyword _)) fun b => ?_
    refine Tracks.ite (Tracks.bind_same ih fun e => Tracks.pure fun A B h => ⟨rfl, h⟩) ?_
    refine Tracks.bind_same (stays_eat (byKind_isSymbol _)) fun b => ?_
    exact Tracks.ite (Tracks.bind_same ih fun e => Tracks.pure fun A B h => ⟨rfl, h⟩) (h (n + 1))

/-! ### Primaries and what follows them -/

lemma stays_memberOf (e : Expr) : Stays X Y (memberOf e) := by
  refine Tracks.read (fun t u htu => ?_) fun x t u htu => ?_
  · simp only [htu.left, htu.right]
    exact Tracks.unexpected
  · obtain ⟨kind, lexeme, offset, pos⟩ := t
    obtain ⟨kind', lexeme', offset', pos'⟩ := u
    obtain rfl : kind = kind' := htu.kind_eq
    have hspelling := congrArg Shape.spelling (htu.1.trans htu.2.symm)
    dsimp only
    split
    · exact Tracks.pure fun A B h => ⟨rfl, h⟩
    · exact Tracks.pure fun A B h => ⟨rfl, h⟩
    · obtain rfl : lexeme = lexeme' := Option.some.inj hspelling
      split
      · exact Tracks.pure fun A B h => ⟨rfl, h⟩
      · exact Tracks.unexpected
    · exact Tracks.unexpected

lemma tracks_callOf (h : Stays X Y expr) {x : Shape} (e : Expr) :
    Tracks (Upon x X Y) (Same (Inside X Y)) (callOf expr e) (callOf expr e) := by
  refine Tracks.bind_yield (tracks_next_upon _ _) fun t u _ => ?_
  split
  · exact Tracks.bind_same (stays_arguments h) fun args => Tracks.pure fun A B h => ⟨rfl, h⟩
  · exact Tracks.bind_same (stays_arguments h) fun args => Tracks.pure fun A B h => ⟨rfl, h⟩
  · exact Tracks.fail

lemma tracks_suffixOf (h : Stays X Y expr) {x : Shape} (s : Suffix) (e : Expr) :
    Tracks (Upon x X Y) (Same (Inside X Y)) (suffixOf expr s e) (suffixOf expr s e) := by
  cases s with
  | member => exact Tracks.take fun _ _ _ => stays_memberOf e
  | index =>
    refine Tracks.take fun _ _ _ => Tracks.bind_same h fun key => ?_
    refine Tracks.bind (tracks_expect (byKind_isSymbol _) _) fun _ _ => ?_
    exact Tracks.pure fun A B h => ⟨rfl, h⟩
  | call => exact tracks_callOf h e
  | filter =>
    refine Tracks.take fun _ _ _ => Tracks.bind_same (stays_identifier _) fun name => ?_
    exact Tracks.bind_same (stays_arguments? h) fun args => Tracks.pure fun A B h => ⟨rfl, h⟩

lemma stays_primary (h : Stays X Y expr) : Stays X Y (primary expr) := by
  refine Tracks.read (fun t u htu => ?_) fun x t u htu => ?_
  · simp only [htu.left, htu.right]
    exact Tracks.unexpected
  · simp only [htu.left, htu.right]
    split
    · exact Tracks.pure fun A B h => ⟨rfl, h⟩
    · exact Tracks.pure fun A B h => ⟨rfl, h⟩
    · exact Tracks.pure fun A B h => ⟨rfl, h⟩
    · exact Tracks.pure fun A B h => ⟨rfl, h⟩
    · exact Tracks.pure fun A B h => ⟨rfl, h⟩
    · exact Tracks.pure fun A B h => ⟨rfl, h⟩
    · exact Tracks.pure fun A B h => ⟨rfl, h⟩
    · refine Tracks.bind_same h fun e => ?_
      refine Tracks.bind (tracks_expect (byKind_isSymbol _) _) fun _ _ => ?_
      exact Tracks.pure fun A B h => ⟨rfl, h⟩
    · exact Tracks.bind_same (stays_commaList h _ _) fun items => Tracks.pure fun A B h => ⟨rfl, h⟩
    · refine Tracks.bind_same (stays_commaList ?_ _ _) fun entries =>
        Tracks.pure fun A B h => ⟨rfl, h⟩
      refine Tracks.bind_same h fun key => ?_
      refine Tracks.bind (tracks_expect (byKind_isSymbol _) _) fun _ _ => ?_
      exact Tracks.bind_same h fun value => Tracks.pure fun A B h => ⟨rfl, h⟩
    · exact Tracks.unexpected

lemma stays_postfixed {expr : Nat → Parser Expr} (h : ∀ n, Stays X Y (expr n)) (n : Nat) :
    Stays X Y (postfixed expr n) := by
  refine Tracks.bind_same (stays_primary (h n)) fun e => ?_
  refine stays_suffixes (M := fun _ A B => ∃ x, Upon x X Y A B) ?_ ?_ n e
  · refine Tracks.look (fun t u htu => ?_) fun x t u htu => ?_
    · simp only [Option.bind_some, htu.left, htu.right, suffix?]
      exact Tracks.pure fun A B h => ⟨rfl, h.inside, nofun⟩
    · simp only [Option.bind_some, htu.left, htu.right]
      exact Tracks.pure fun A B h => ⟨rfl, h.inside, fun _ _ => ⟨x, h⟩⟩
  · rintro s m e _ _ hs _ _ ⟨x, hx⟩
    exact tracks_suffixOf (h m) s e hs hx

/-! ### Expressions -/

lemma stays_conditional {operand : Parser Expr} (h : Stays X Y expr)
    (hoperand : Stays X Y operand) : Stays X Y (conditional expr operand) := by
  refine Tracks.bind_same hoperand fun value => ?_
  refine Tracks.bind_same (stays_eat (byKind_isWord _)) fun b => ?_
  refine Tracks.ite ?_ (Tracks.pure fun A B h => ⟨rfl, h⟩)
  refine Tracks.bind_same hoperand fun condition => ?_
  refine Tracks.bind_same (stays_eat (byKind_isWord _)) fun b => ?_
  refine Tracks.ite ?_ (Tracks.pure fun A B h => ⟨rfl, h⟩)
  exact Tracks.bind_same h fun otherwise => Tracks.pure fun A B h => ⟨rfl, h⟩

lemma stays_operators {expr : Nat → Parser Expr} (h : ∀ n, Stays X Y (expr n)) (n : Nat) :
    Stays X Y (operators expr n) :=
  stays_leftAssoc rfl (stays_leftAssoc rfl (stays_comparisons h (stays_leftAssoc rfl
    (stays_leftAssoc rfl (stays_leftAssoc rfl (stays_prefixed (stays_postfixed h))))))) n

lemma stays_parserUpTo (bound budget : Nat) : Stays X Y (parserUpTo bound budget) := by
  induction bound generalizing budget with
  | zero => exact Tracks.tooDeep
  | succ n ih =>
    rw [parserUpTo]
    exact Tracks.ite (ih budget) (stays_conditional (ih n) (stays_operators ih n))

/-- Inside a directive both dialects have the same expressions. -/
theorem parser_stays (budget : Nat) : Stays X Y (parser budget) := stays_parserUpTo budget budget

end Stencil.Expr
