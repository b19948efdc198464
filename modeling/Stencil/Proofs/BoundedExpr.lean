import Stencil.Proofs.Heeds

/-! Expressions end before the end of the construct they stand in. -/
namespace Stencil.Expr

open Stencil.Parser

variable {α : Type} {stop : Token} {expr : Parser Expr}

/-! ### Operators -/

/-- What the operators say of the tokens behind them is kept in `M`. -/
lemma bounded_suffixes {operator : Parser (Option α)} {apply : α → Nat → Expr → Parser Expr}
    {M : α → List Token → Prop}
    (hoperator : Heeds stop Inner (fun o ts => Inner ts ∧ ∀ x, o = some x → M x ts) operator)
    (happly : ∀ o n e, Heeds stop (M o) (fun _ => Inner) (apply o n e)) (n : Nat) (e : Expr) :
    Bounded stop (suffixes operator apply n e) := by
  induction n generalizing e with
  | zero =>
    refine hoperator.bind fun o => ?_
    cases o with
    | none => exact Heeds.pure fun _ h => h.1
    | some o => exact Heeds.tooDeep
  | succ n ih =>
    refine hoperator.bind fun o => ?_
    cases o with
    | none => exact Heeds.pure fun _ h => h.1
    | some o => exact ((happly o n e).of_imp fun _ h => h.2 o rfl).bind ih

/-- Behind an operator that is taken the construct goes on. -/
lemma heeds_taken {operator : Parser (Option α)} (h : Bounded stop operator) :
    Heeds stop Inner (fun o ts => Inner ts ∧ ∀ x : α, o = some x → Inner ts) operator :=
  h.mono (fun _ => id) fun _ _ hts => ⟨hts, fun _ _ => hts⟩

lemma bounded_operator? {ops : Token.Kind → Option BinaryOp} (hops : ops stop.kind = none) :
    Bounded stop (operator? ops) := by
  refine Heeds.look ?_ fun t => ?_
  · simp only [Option.bind_some, hops]
    exact Heeds.pure fun ts h => h ▸ List.forall_mem_nil _
  · simp only [Option.bind_some]
    cases ops t.kind with
    | none => exact Heeds.pure fun _ => Begins.inner
    | some op => exact Heeds.take fun _ => Heeds.pure fun _ => id

lemma bounded_leftAssoc {ops : Token.Kind → Option BinaryOp} (hops : ops stop.kind = none)
    {operand : Nat → Parser Expr} (h : ∀ n, Bounded stop (operand n)) (n : Nat) :
    Bounded stop (leftAssoc ops operand n) := by
  refine (h n).bind fun e => bounded_suffixes (heeds_taken (bounded_operator? hops)) ?_ n e
  exact fun op m e => (h m).bind fun e' => Heeds.pure fun _ => id

/-! ### Comparisons and tests -/

/-- Two tokens of the construct are next. -/
def BeginsTwice (ts : List Token) : Prop := ∃ t u rest, ts = t :: u :: rest ∧ Inner rest

lemma heeds_notInAhead (hstop : stop.Ends) :
    Heeds stop Inner (fun b ts => Inner ts ∧ (b = true → BeginsTwice ts)) notInAhead := by
  refine Heeds.look ?_ fun t => ?_
  · simp only [Option.any_some, isKeyword_of_ends hstop]
    exact Heeds.pure fun ts h => ⟨h ▸ List.forall_mem_nil _, nofun⟩
  simp only [Option.any_some]
  refine Heeds.ite ?_ (Heeds.pure fun _ h => ⟨h.inner, nofun⟩)
  rintro _ ⟨ts, rfl, ht, hts⟩
  have hall : Inner (t :: ts) := List.forall_mem_cons.mpr ⟨ht, hts⟩
  cases ts with
  | nil =>
    refine .ok false [t] ⟨hall, nofun⟩ fun s more => ?_
    refine (outcome_bind_ok outcome_secondAhead_cons _).trans ?_
    rw [Option.any_some, isKeyword_of_ends hstop]
    rfl
  | cons u ts =>
    refine .ok (isKeyword .isIn u) (t :: u :: ts) ⟨hall, fun _ => ?_⟩ fun s more =>
      outcome_bind_ok outcome_secondAhead_cons _
    exact ⟨t, u, ts, rfl, (List.forall_mem_cons.mp hts).2⟩

lemma bounded_comparison? (hstop : stop.Ends) : Bounded stop comparison? := by
  have hnotIn : Bounded stop (do
      if ← notInAhead then
        let _ ← next?
        let _ ← next?
        pure (some (Comparison.binary .notIn))
      else pure none) := by
    refine (heeds_notInAhead hstop).bind fun b => ?_
    cases b with
    | false => exact Heeds.pure fun _ h => h.1
    | true =>
      rintro ts ⟨-, hboth⟩
      obtain ⟨t, u, rest, rfl, hrest⟩ := hboth rfl
      exact .ok _ _ hrest fun s more => rfl
  refine Heeds.look ?_ fun t => ?_
  · simp only [kind_of_ends hstop (f := comparisonOp?) rfl rfl, isKeyword_of_ends hstop]
    exact hnotIn.of_imp fun ts h => h ▸ List.forall_mem_nil _
  · dsimp only
    cases comparisonOp? t.kind with
    | some op => exact Heeds.take fun _ => Heeds.pure fun _ => id
    | none =>
      refine Heeds.ite (Heeds.take fun _ => Heeds.pure fun _ => id) ?_
      exact hnotIn.of_imp fun _ => Begins.inner

lemma bounded_arguments (hstop : stop.Ends) (h : Bounded stop expr) :
    Bounded stop (arguments expr) :=
  bounded_commaList hstop h _ _

lemma bounded_arguments? (hstop : stop.Ends) (h : Bounded stop expr) :
    Bounded stop (arguments? expr) := by
  refine (bounded_eat (isSymbol_of_ends hstop _)).bind fun b => ?_
  exact Heeds.ite (bounded_arguments hstop h) (Heeds.pure fun _ => id)

lemma bounded_testName (hstop : stop.Ends) : Bounded stop testName := by
  refine Heeds.read ?_ fun t => ?_
  · obtain h | h := hstop
    · exact ⟨_, rfl, by rw [h]; rfl⟩
    · exact ⟨_, rfl, by rw [h]; rfl⟩
  · split
    iterate 4
      · exact Heeds.pure fun _ => id
    · exact Heeds.unexpected

lemma bounded_testOf (hstop : stop.Ends) (h : Bounded stop expr) (e : Expr) :
    Bounded stop (testOf expr e) := by
  refine (bounded_eat (isKeyword_of_ends hstop _)).bind fun negated => ?_
  refine (bounded_testName hstop).bind fun name => ?_
  exact (bounded_arguments? hstop h).bind fun args => Heeds.pure fun _ => id

lemma bounded_comparisons (hstop : stop.Ends) {expr operand : Nat → Parser Expr}
    (hexpr : ∀ n, Bounded stop (expr n)) (h : ∀ n, Bounded stop (operand n)) (n : Nat) :
    Bounded stop (comparisons expr operand n) := by
  refine (h n).bind fun e => bounded_suffixes (heeds_taken (bounded_comparison? hstop)) ?_ n e
  intro op m e
  cases op with
  | binary op => exact (h m).bind fun e' => Heeds.pure fun _ => id
  | test => exact bounded_testOf hstop (hexpr m) e

lemma bounded_prefixed (hstop : stop.Ends) {operand : Nat → Parser Expr}
    (h : ∀ n, Bounded stop (operand n)) (n : Nat) : Bounded stop (prefixed operand n) := by
  have hnot := bounded_eat (isKeyword_of_ends hstop .not)
  have hminus := bounded_eat (isSymbol_of_ends hstop .minus)
  induction n with
  | zero =>
    refine hnot.bind fun b => Heeds.ite Heeds.tooDeep ?_
    exact hminus.bind fun b => Heeds.ite Heeds.tooDeep (h 0)
  | succ n ih =>
    refine hnot.bind fun b => Heeds.ite (ih.bind fun e => Heeds.pure fun _ => id) ?_
    refine hminus.bind fun b => Heeds.ite (ih.bind fun e => Heeds.pure fun _ => id) (h (n + 1))

/-! ### Primaries and what follows them -/

lemma bounded_memberOf (hstop : stop.Ends) (e : Expr) : Bounded stop (memberOf e) := by
  refine Heeds.read ?_ fun t => ?_
  · obtain h | h := hstop
    · exact ⟨_, rfl, by rw [h]; rfl⟩
    · exact ⟨_, rfl, by rw [h]; rfl⟩
  · split
    · exact Heeds.pure fun _ => id
    · exact Heeds.pure fun _ => id
    · split
      · exact Heeds.pure fun _ => id
      · exact Heeds.unexpected
    · exact Heeds.unexpected

lemma heeds_callOf (hstop : stop.Ends) (h : Bounded stop expr) (t : Token) (e : Expr) :
    Heeds stop (Begins t) (fun _ => Inner) (callOf expr e) := by
  rintro _ ⟨ts, rfl, -, hts⟩
  refine Halts.of_eq ?_ fun s more => outcome_bind_ok outcome_next_cons _
  split
  · exact ((bounded_arguments hstop h).bind fun args => Heeds.pure fun _ => id) hts
  · exact ((bounded_arguments hstop h).bind fun args => Heeds.pure fun _ => id) hts
  · exact Heeds.fail rfl hts

lemma heeds_suffixOf (hstop : stop.Ends) (h : Bounded stop expr) (t : Token) (s : Suffix)
    (e : Expr) : Heeds stop (Begins t) (fun _ => Inner) (suffixOf expr s e) := by
  cases s with
  | member => exact Heeds.take fun _ => bounded_memberOf hstop e
  | index =>
    refine Heeds.take fun _ => h.bind fun key => ?_
    exact (bounded_expect (isSymbol_of_ends hstop _)).bind fun _ => Heeds.pure fun _ => id
  | call => exact heeds_callOf hstop h t e
  | filter =>
    refine Heeds.take fun _ => (bounded_identifier hstop).bind fun name => ?_
    exact (bounded_arguments? hstop h).bind fun args => Heeds.pure fun _ => id

lemma bounded_primary (hstop : stop.Ends) (h : Bounded stop expr) :
    Bounded stop (primary expr) := by
  refine Heeds.read ?_ fun t => ?_
  · obtain h | h := hstop
    · exact ⟨_, rfl, by rw [h]; rfl⟩
    · exact ⟨_, rfl, by rw [h]; rfl⟩
  · split
    iterate 7
      · exact Heeds.pure fun _ => id
    · refine h.bind fun e => ?_
      exact (bounded_expect (isSymbol_of_ends hstop _)).bind fun _ => Heeds.pure fun _ => id
    · exact (bounded_commaList hstop h _ _).bind fun items => Heeds.pure fun _ => id
    · refine (bounded_commaList hstop ?_ _ _).bind fun entries => Heeds.pure fun _ => id
      refine h.bind fun key => (bounded_expect (isSymbol_of_ends hstop _)).bind fun _ => ?_
      exact h.bind fun value => Heeds.pure fun _ => id
    · exact Heeds.unexpected

lemma bounded_postfixed (hstop : stop.Ends) {expr : Nat → Parser Expr}
    (h : ∀ n, Bounded stop (expr n)) (n : Nat) : Bounded stop (postfixed expr n) := by
  refine (bounded_primary hstop (h n)).bind fun e => ?_
  refine bounded_suffixes (M := fun _ ts => ∃ t, Begins t ts) ?_ ?_ n e
  · refine Heeds.look ?_ fun t => ?_
    · simp only [Option.bind_some, kind_of_ends hstop (f := suffix?) rfl rfl]
      exact Heeds.pure fun ts h => ⟨h ▸ List.forall_mem_nil _, nofun⟩
    · exact Heeds.pure fun _ h => ⟨h.inner, fun _ _ => ⟨t, h⟩⟩
  · rintro s m e ts ⟨t, hts⟩
    exact heeds_suffixOf hstop (h m) t s e hts

/-! ### Expressions -/

lemma bounded_conditional (hstop : stop.Ends) {operand : Parser Expr} (h : Bounded stop expr)
    (hoperand : Bounded stop operand) : Bounded stop (conditional expr operand) := by
  have hword := fun word => bounded_eat (isWord_of_ends hstop word)
  refine hoperand.bind fun value => (hword "if").bind fun b => ?_
  refine Heeds.ite ?_ (Heeds.pure fun _ => id)
  refine hoperand.bind fun condition => (hword "else").bind fun b => ?_
  refine Heeds.ite ?_ (Heeds.pure fun _ => id)
  exact h.bind fun otherwise => Heeds.pure fun _ => id

lemma bounded_operators (hstop : stop.Ends) {expr : Nat → Parser Expr}
    (h : ∀ n, Bounded stop (expr n)) (n : Nat) : Bounded stop (operators expr n) := by
  have hleft : ∀ ops : Token.Kind → Option BinaryOp, ops .printEnd = none →
      ops .directiveEnd = none → ∀ {operand : Nat → Parser Expr},
      (∀ n, Bounded stop (operand n)) → ∀ n, Bounded stop (leftAssoc ops operand n) :=
    fun ops hprint hdirective => bounded_leftAssoc (kind_of_ends hstop hprint hdirective)
  have hprefixed := bounded_prefixed hstop (bounded_postfixed hstop h)
  have hconcat := hleft concatOp? rfl rfl
    (hleft additiveOp? rfl rfl (hleft multiplicativeOp? rfl rfl hprefixed))
  have hcomparisons := bounded_comparisons hstop h hconcat
  exact hleft orOp? rfl rfl (hleft andOp? rfl rfl hcomparisons) n

lemma bounded_parserUpTo (hstop : stop.Ends) (bound budget : Nat) :
    Bounded stop (parserUpTo bound budget) := by
  induction bound generalizing budget with
  | zero => exact Heeds.tooDeep
  | succ n ih =>
    rw [parserUpTo]
    exact Heeds.ite (ih budget) (bounded_conditional hstop (ih n) (bounded_operators hstop ih n))

/-- An expression ends before the end of its construct. -/
theorem bounded_all (hstop : stop.Ends) (budget : Nat) : Bounded stop (parser budget) :=
  bounded_parserUpTo hstop budget budget

end Stencil.Expr
