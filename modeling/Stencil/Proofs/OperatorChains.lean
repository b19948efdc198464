import Stencil.Proofs.Takes

/-! Reading printed operators: what may follow an operand, how an expression begins, and the chains
that operators of one level form. -/
namespace Stencil

open Token Shape Stencil.Parser

/-! ### What follows an expression -/

/-- How tightly the operator binds that a token begins behind an operand; zero if it begins none. -/
@[simp] def Token.Kind.level : Kind → Nat
  | .ident name => if name = "if" ∨ name = "else" then 1 else 0
  | .keyword .or => 2
  | .keyword .and => 3
  | .keyword .isIn | .keyword .is | .keyword .not => 4
  | .symbol .equal | .symbol .notEqual | .symbol .less | .symbol .greater | .symbol .lessEqual
  | .symbol .greaterEqual => 4
  | .symbol .tilde => 5
  | .symbol .plus | .symbol .minus => 6
  | .symbol .star | .symbol .slash | .symbol .slashSlash | .symbol .percent => 7
  | .symbol .dot | .symbol .openBracket | .symbol .pipe => 9
  | .symbol .openParen => 10
  | _ => 0

/-- Whether a token begins an expression that no operator takes apart. -/
def Token.Kind.opens : Kind → Bool
  | .str _ | .int _ | .float _ | .ident _ => true
  | .keyword .none | .keyword .true | .keyword .false => true
  | .symbol .openParen | .symbol .openBracket | .symbol .openBrace => true
  | _ => false

namespace Expr

variable {c : Prop} {α : Type} {x : Shape} {X M R R' : List Shape} {e e' : Expr} {l n m bound : Nat}

/-- What comes next does not continue an operand of an operator of this level. -/
def Follows (l : Nat) (X : List Shape) : Prop := ∃ x M, X = x :: M ∧ x.kind.level < l

lemma follows_cons (h : x.kind.level < l) : Follows l (x :: M) := ⟨x, M, rfl, h⟩

lemma Follows.mono {l' : Nat} (h : Follows l X) (hl : l ≤ l') : Follows l' X := by
  obtain ⟨x, M, rfl, hx⟩ := h
  exact ⟨x, M, rfl, Nat.lt_of_lt_of_le hx hl⟩

/-! ### Sizes and levels -/

lemma size_pos (e : Expr) : 0 < e.size := by
  cases e <;> simp [size]

lemma BinaryOp.level_bounds (op : BinaryOp) : 2 ≤ op.level ∧ op.level ≤ 7 := by
  cases op <;> decide

lemma level_pos (e : Expr) : 1 ≤ e.level := by
  cases e with
  | binary op _ _ => exact Nat.le_trans (by decide) (BinaryOp.level_bounds op).1
  | _ => simp [level]

lemma level_le (e : Expr) : e.level ≤ 9 := by
  cases e with
  | binary op _ _ => exact Nat.le_trans (BinaryOp.level_bounds op).2 (by decide)
  | _ => simp [level]

lemma size_le_sizeAll {e : Expr} {args : List Expr} (h : e ∈ args) : e.size ≤ sizeAll args := by
  induction args with
  | nil => cases h
  | cons a args ih =>
    rw [sizeAll]
    rcases List.mem_cons.mp h with rfl | h
    · exact Nat.le_add_right _ _
    · exact Nat.le_trans (ih h) (Nat.le_add_left _ _)

lemma size_le_sizeEntries {b : Expr × Expr} {entries : List (Expr × Expr)} (h : b ∈ entries) :
    b.1.size + b.2.size ≤ sizeEntries entries := by
  induction entries with
  | nil => cases h
  | cons a entries ih =>
    rw [sizeEntries]
    rcases List.mem_cons.mp h with rfl | h
    · exact Nat.le_add_right _ _
    · exact Nat.le_trans (ih h) (Nat.le_add_left _ _)

lemma printedAll_eq_map (args : List Expr) : printedAll args = args.map printed := by
  induction args with
  | nil => rfl
  | cons e args ih => rw [printedAll, ih, List.map_cons]

lemma printedEntries_eq_map (entries : List (Expr × Expr)) :
    printedEntries entries = entries.map fun b => b.1.printed ++ sign .colon :: b.2.printed := by
  induction entries with
  | nil => rfl
  | cons b entries ih => rw [printedEntries, ih, List.map_cons]

lemma printedAt_of_le (h : l ≤ e.level) : printedAt l e = e.printed :=
  if_neg (Nat.not_lt.mpr h)

lemma printedAt_of_lt (h : e.level < l) :
    printedAt l e = sign .openParen :: (e.printed ++ [sign .closeParen]) :=
  if_pos h

/-- Where an expression is not at its own level it stands as on the next one. -/
lemma printedAt_succ (h : e.level ≠ l) : printedAt (l + 1) e = printedAt l e := by
  rcases Nat.lt_or_gt_of_ne h with h | h
  · rw [printedAt_of_lt h, printedAt_of_lt (Nat.lt_succ_of_lt h)]
  · rw [printedAt_of_le h, printedAt_of_le (Nat.le_of_lt h)]

/-- Three levels of the budget for each node are enough, and one more for parentheses. -/
def cost (l : Nat) (e : Expr) : Nat := 3 * e.size + if e.level < l then 1 else 0

lemma cost_le (l : Nat) (e : Expr) : cost l e ≤ 3 * e.size + 1 := by
  unfold cost
  split <;> omega

lemma cost_of_le (h : l ≤ e.level) : cost l e = 3 * e.size := by
  rw [cost, if_neg (Nat.not_lt.mpr h), Nat.add_zero]

lemma cost_of_lt (h : e.level < l) : cost l e = 3 * e.size + 1 := by
  rw [cost, if_pos h]

lemma cost_succ (h : e.level ≠ l) : cost (l + 1) e = cost l e := by
  rcases Nat.lt_or_gt_of_ne h with h | h
  · rw [cost_of_lt h, cost_of_lt (Nat.lt_succ_of_lt h)]
  · rw [cost_of_le h, cost_of_le (Nat.le_of_lt h)]

/-! ### How expressions begin -/

/-- An expression begins like one that no operator takes apart, or with a prefix operator, which
stands in parentheses where the former is asked for. -/
lemma exists_start (e : Expr) : ∃ x X, e.printed = x :: X ∧
    (x.kind.opens = true ∨ e.level ≠ 9 ∧ ∃ op : UnaryOp, x = op.printed) := by
  induction hn : e.size using Nat.strongRecOn generalizing e with
  | ind n ih =>
  subst hn
  -- the left operand of an operator begins the whole
  have hleft : ∀ (l : Nat) (base : Expr) (Y : List Shape), base.size < e.size →
      (l = 9 ∨ e.level ≠ 9) → ∃ x X, enclosed l base base.printed ++ Y = x :: X ∧
        (x.kind.opens = true ∨ e.level ≠ 9 ∧ ∃ op : UnaryOp, x = op.printed) := by
    intro l base Y hsize hl
    by_cases hparens : base.level < l
    · exact ⟨_, _, by rw [enclosed, if_pos hparens, List.cons_append], .inl rfl⟩
    · obtain ⟨x, X, hX, hx⟩ := ih base.size hsize base rfl
      refine ⟨x, X ++ Y, by rw [enclosed, if_neg hparens, hX, List.cons_append], ?_⟩
      rcases hx with hx | ⟨hbase, hx⟩
      · exact .inl hx
      · have := base.level_le
        exact .inr ⟨hl.resolve_left (by omega), hx⟩
  cases e with
  | lit value => exact ⟨_, _, rfl, .inl (by rcases value with _ | (_ | _) | _ | _ | _ <;> rfl)⟩
  | list items => exact ⟨_, _, rfl, .inl rfl⟩
  | dict entries => exact ⟨_, _, rfl, .inl rfl⟩
  | var v => exact ⟨_, _, rfl, .inl rfl⟩
  | item base key => exact hleft 9 base _ (by rw [size]; omega) (.inl rfl)
  | binary op left right =>
    have := BinaryOp.level_bounds op
    exact hleft op.level left _ (by rw [size]; omega) (.inr (by rw [level]; omega))
  | unary op operand => exact ⟨_, _, rfl, .inr ⟨nofun, op, rfl⟩⟩
  | filter base f args => exact hleft 9 base _ (by rw [size]; omega) (.inl rfl)
  | test base t args negated => exact hleft 4 base _ (by rw [size]; omega) (.inr nofun)
  | call f args => exact ⟨_, _, rfl, .inl rfl⟩
  | callMember base member args => exact hleft 9 base _ (by rw [size]; omega) (.inl rfl)
  | choice value condition otherwise =>
    exact hleft 2 value _ (by rw [size]; omega) (.inr nofun)

/-- Whatever follows, an expression does not begin with a sign that opens none. -/
lemma exists_start_append {close : Symbol}
    (hclose : (Kind.symbol close).opens = false ∧ close ≠ .minus) (e : Expr) (M : List Shape) :
    ∃ x X, e.printed ++ M = x :: X ∧ x.kind ≠ .symbol close := by
  obtain ⟨x, X, hX, hx⟩ := e.exists_start
  refine ⟨x, X ++ M, by rw [hX, List.cons_append], fun hkind => ?_⟩
  rcases hx with hx | ⟨-, op, rfl⟩
  · rw [hkind, hclose.1] at hx
    cases hx
  · cases op with
    | not => cases hkind
    | neg => exact hclose.2 (Kind.symbol.inj hkind).symm

/-- An operand of a prefix operator that has none itself begins like a primary. -/
lemma exists_start_primary (e : Expr) (M : List Shape) :
    ∃ x X, printedAt 9 e ++ M = x :: X ∧ x.kind.opens = true := by
  by_cases h : e.level < 9
  · exact ⟨_, _, by rw [printedAt_of_lt h, List.cons_append], rfl⟩
  · obtain ⟨x, X, hX, hx⟩ := e.exists_start
    have := e.level_le
    exact ⟨x, X ++ M, by rw [printedAt_of_le (Nat.not_lt.mp h), hX, List.cons_append],
      hx.resolve_right fun hx => hx.1 (by omega)⟩

/-! ### Operators between operands -/

/-- What stands where an operand of this level may stand is read, if the budget is enough. -/
def Operands (l bound : Nat) (p : Nat → Parser Expr) : Prop :=
  ∀ ⦃e : Expr⦄ ⦃n : Nat⦄ ⦃R : List Shape⦄, n ≤ bound → Follows l R →
    Takes (cost l e ≤ n + 2) (p n) (printedAt l e ++ R) e R

/-- What stands between brackets is read, if the budget is enough. -/
def Nested (bound : Nat) (p : Nat → Parser Expr) : Prop :=
  ∀ ⦃e : Expr⦄ ⦃n : Nat⦄ ⦃R : List Shape⦄, n ≤ bound → Follows 1 R →
    Takes (3 * e.size ≤ n + 1) (p n) (e.printed ++ R) e R

section Chain

variable {operator : Parser (Option α)} {apply : α → Nat → Expr → Parser Expr}
  {first : Nat → Parser Expr} {Behind : Expr → List Shape → Prop}

/-- An operator of this level makes `e` of `left`, and is printed as `Y` behind it. `Behind` tells
what may stand behind an expression on the left spine. -/
structure Extends (operator : Parser (Option α)) (apply : α → Nat → Expr → Parser Expr)
    (Behind : Expr → List Shape → Prop) (l bound : Nat) (left : Expr) (Y : List Shape) (e : Expr) :
    Prop where
  smaller : left.size < e.size
  printed : printedAt l e = printedAt l left ++ Y
  behind : ∀ R, Behind left (Y ++ R)
  reads : ∀ ⦃R⦄, Behind e R → ∃ o M, (∀ c, Takes c operator (Y ++ R) (some o) M) ∧
    ∀ m < bound, Takes (3 * e.size ≤ m + left.size + 3) (apply o m left) M e R

/-- Where the left spine ends stands what `first` reads. -/
def Splits (operator : Parser (Option α)) (apply : α → Nat → Expr → Parser Expr)
    (first : Nat → Parser Expr) (Behind : Expr → List Shape → Prop) (l bound : Nat) : Prop :=
  ∀ e : Expr,
    (∀ ⦃n R⦄, n ≤ bound → Behind e R →
      Takes (cost l e ≤ n + 2) (first n) (printedAt l e ++ R) e R) ∨
    ∃ left Y, Extends operator apply Behind l bound left Y e

/-- The operators along the left spine of `e` are read one after the other; each takes one level of
the budget. -/
lemma takes_spine (hparts : Splits operator apply first Behind l bound) (e : Expr) (hn : n ≤ bound)
    (hc : c → cost l e ≤ n + 2) (hR : Behind e R)
    (hrest : ∀ m ≤ n, n < m + e.size → Takes c (suffixes operator apply m e) R e' R') :
    Takes c (first n >>= suffixes operator apply n) (printedAt l e ++ R) e' R' := by
  induction hsize : e.size using Nat.strongRecOn generalizing e R with
  | ind k ih =>
  subst hsize
  rcases hparts e with hbase | ⟨left, Y, hext⟩
  · have := e.size_pos
    exact ((hbase hn hR).mono hc).bind (hrest n (Nat.le_refl n) (by omega))
  · have hsmaller := hext.smaller
    have hcost : c → 3 * e.size ≤ n + 2 := fun h =>
      Nat.le_trans (Nat.le_add_right _ _) (hc h)
    obtain ⟨o, M, hop, happly⟩ := hext.reads hR
    rw [hext.printed, List.append_assoc]
    refine ih left.size hsmaller left (fun h => ?_) (hext.behind R) (fun m hm hn' => ?_) rfl
    · have := cost_le l left
      have := hcost h
      omega
    · refine Takes.suffixes_some (hop c) (fun h => ?_) fun m' hm' => ?_
      · have := hcost h
        omega
      · refine ((happly m' (by omega)).mono fun h => ?_).bind (hrest m' (by omega) (by omega))
        have := hcost h
        omega

lemma operands_suffixes (Behind : Expr → List Shape → Prop)
    (hparts : Splits operator apply first Behind l bound)
    (hbehind : ∀ ⦃e R⦄, Follows l R → Behind e R)
    (hnone : ∀ ⦃R⦄, Follows l R → ∀ c, Takes c operator R none R) :
    Operands l bound (fun n => first n >>= suffixes operator apply n) :=
  fun e _ _ hn hR => takes_spine hparts e hn id (hbehind hR) fun _ _ _ =>
    Takes.suffixes_none (hnone hR _)

/-- Between the operands of operators of one level stand those of the next. -/
lemma operands_between (hfirst : Operands (l + 1) bound first)
    (hparts : ∀ e : Expr, e.level = l →
      ∃ left Y, Extends operator apply (fun _ => Follows (l + 1)) l bound left Y e)
    (hnone : ∀ ⦃R⦄, Follows l R → ∀ c, Takes c operator R none R) :
    Operands l bound (fun n => first n >>= suffixes operator apply n) := by
  refine operands_suffixes (fun _ => Follows (l + 1)) (fun e => ?_)
    (fun e R hR => hR.mono (Nat.le_succ l)) hnone
  by_cases hl : e.level = l
  · exact .inr (hparts e hl)
  · left
    intro n R hn hR
    rw [← printedAt_succ hl, ← cost_succ hl]
    exact hfirst hn hR

end Chain

/-! ### Binary operators -/

section Binary

variable {ops : Kind → Option BinaryOp} {operand : Nat → Parser Expr} {op : BinaryOp}
  {left right : Expr}

lemma takes_operator? (h : ops x.kind = some op) :
    Takes c (operator? ops) (x :: M) (some op) M := by
  refine Takes.ahead fun t ht => ?_
  simp only [Option.bind_some, ht.1, h]
  exact Takes.next? fun _ _ => Takes.pure

lemma takes_operator?_none (h : ops x.kind = none) :
    Takes c (operator? ops) (x :: M) none (x :: M) := by
  refine Takes.ahead fun t ht => ?_
  simp only [Option.bind_some, ht.1, h]
  exact Takes.pure

/-- The right operand of an operator is read one level of the budget deeper. -/
lemma takes_right (hoperand : Operands l bound operand) (hm : m < bound) (hR : Follows l R) :
    Takes (3 * (binary op left right).size ≤ m + left.size + 3)
      (operand m >>= fun right => (return .binary op left right : Parser Expr))
      (printedAt l right ++ R) (.binary op left right) R := by
  refine ((hoperand (Nat.le_of_lt hm) hR).mono fun h => ?_).bind Takes.pure
  have := cost_le l right
  have := left.size_pos
  rw [size] at h
  omega

/-- The operators that a level of the parser knows are those of that level. -/
structure Tells (ops : Kind → Option BinaryOp) (l : Nat) : Prop where
  printed : ∀ op : BinaryOp, op.level = l →
    ∃ x : Shape, op.printed = [x] ∧ x.kind.level = l ∧ ops x.kind = some op
  level : ∀ k : Kind, k.level < l → ops k = none

lemma operands_leftAssoc (hops : Tells ops l) (hl : l ≠ 1 ∧ l ≠ 4 ∧ l < 8)
    (hoperand : Operands (l + 1) bound operand) : Operands l bound (leftAssoc ops operand) := by
  refine operands_between hoperand (fun e he => ?_) (fun R hR c => ?_)
  · cases e with
    | binary op left right =>
      have hop : op.level = l := he
      subst hop
      obtain ⟨x, hprinted, hx, hsome⟩ := hops.printed op rfl
      refine ⟨left, x :: printedAt (op.level + 1) right, ?_, ?_, ?_, ?_⟩
      · rw [size]
        omega
      · rw [printedAt_of_le (Nat.le_refl op.level), Expr.printed, hprinted]
        rfl
      · exact fun R => follows_cons (by omega)
      · exact fun R hR => ⟨op, _, fun c => takes_operator? hsome,
          fun m hm => takes_right hoperand hm hR⟩
    | _ => simp only [level] at he; omega
  · obtain ⟨x, M, rfl, hx⟩ := hR
    exact takes_operator?_none (hops.level _ hx)

end Binary

end Expr

end Stencil
