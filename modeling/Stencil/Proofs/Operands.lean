import Stencil.Proofs.OperatorChains

/-! Reading what stands between the operators of a printed expression: brackets, comparisons and
tests, prefix operators, and primaries with their suffixes. -/
namespace Stencil

open Token Shape Stencil.Parser

namespace Expr

variable {c : Prop} {α : Type} {x : Shape} {X M R R' : List Shape} {e e' : Expr} {l n m bound : Nat}

/-! ### Brackets -/

section Brackets

variable {nested : Nat → Parser Expr} {close : Symbol} {expected : String} {args : List Expr}

/-- Signs behind which no expression begins or goes on. -/
def Closes (close : Symbol) : Prop :=
  (Kind.symbol close).opens = false ∧ close ≠ .minus ∧ (Kind.symbol close).level = 0 ∧
    close ≠ .comma

lemma closes_parens : Closes .closeParen := ⟨rfl, nofun, rfl, nofun⟩

lemma closes_bracket : Closes .closeBracket := ⟨rfl, nofun, rfl, nofun⟩

lemma closes_brace : Closes .closeBrace := ⟨rfl, nofun, rfl, nofun⟩

lemma follows_sign {s : Symbol} (h : (Kind.symbol s).level = 0) : Follows (l + 1) (sign s :: M) :=
  follows_cons (by rw [sign, h]; omega)

lemma follows_separator {close : Symbol} (hclose : Closes close)
    (h : x = sign .comma ∨ x = sign close) : Follows (l + 1) (x :: M) := by
  rcases h with rfl | rfl
  · exact follows_sign rfl
  · exact follows_sign hclose.2.2.1

lemma takes_items (hnested : Nested bound nested) (hm : m ≤ bound) (hclose : Closes close) :
    Takes (3 * sizeAll args ≤ m + 1) (commaList close expected (nested m))
      (commas (printedAll args) ++ sign close :: R) args R := by
  rw [printedAll_eq_map]
  refine Takes.commaList hclose.2.2.2 args
    (fun e _ M => e.exists_start_append ⟨hclose.1, hclose.2.1⟩ M) fun e he x M hx => ?_
  refine (hnested hm (follows_separator hclose hx)).mono fun h => ?_
  have := size_le_sizeAll he
  omega

lemma takes_entries (hnested : Nested bound nested) (hm : m ≤ bound)
    {entries : List (Expr × Expr)} :
    Takes (3 * sizeEntries entries ≤ m + 1)
      (commaList .closeBrace expected do
        let key ← nested m
        let _ ← expect (isSymbol .colon) "`:`"
        return (key, ← nested m))
      (commas (printedEntries entries) ++ sign .closeBrace :: R) entries R := by
  rw [printedEntries_eq_map]
  refine Takes.commaList closes_brace.2.2.2 entries (fun b _ M => ?_) fun b hb x M hx => ?_
  · rw [List.append_assoc]
    exact b.1.exists_start_append ⟨closes_brace.1, closes_brace.2.1⟩ _
  · rw [List.append_assoc]
    have := size_le_sizeEntries hb
    refine ((hnested hm (follows_sign rfl)).mono fun h => by omega).bind ?_
    refine Takes.expect (fun _ => isSymbol_of_fits) fun _ _ => ?_
    exact ((hnested hm (follows_separator closes_brace hx)).mono fun h => by omega).bind Takes.pure

lemma takes_arguments (hnested : Nested bound nested) (hm : m ≤ bound) :
    Takes (3 * sizeAll args ≤ m + 1) (arguments (nested m))
      (commas (printedAll args) ++ sign .closeParen :: R) args R :=
  takes_items hnested hm closes_parens

lemma takes_arguments? (hnested : Nested bound nested) (hm : m ≤ bound) (hR : Follows 10 R) :
    Takes (3 * sizeAll args ≤ m + 1) (arguments? (nested m))
      (argShapes? (printedAll args) ++ R) args R := by
  cases args with
  | nil =>
    obtain ⟨x, M, rfl, hx⟩ := hR
    refine (Takes.eat_other_sign fun hkind => ?_).bind Takes.pure
    rw [hkind] at hx
    exact absurd hx (by decide)
  | cons e args =>
    change Takes _ _ (sign .openParen ::
      ((commas (printedAll (e :: args)) ++ [sign .closeParen]) ++ R)) _ _
    rw [List.append_assoc]
    exact Takes.eat_sign.bind (takes_arguments hnested hm)

end Brackets

/-! ### Comparisons and tests -/

section Comparisons

variable {nested operand : Nat → Parser Expr}

lemma takes_comparison? {op : BinaryOp} (h : comparisonOp? x.kind = some op) :
    Takes c comparison? (x :: M) (some (.binary op)) M := by
  refine Takes.ahead fun t ht => ?_
  simp only [ht.1, h]
  exact Takes.next? fun _ _ => Takes.pure

lemma takes_comparison?_is : Takes c comparison? (word .is :: M) (some .test) M := by
  refine Takes.ahead fun t ht => ?_
  simp only [ht.1, word, comparisonOp?, isKeyword_of_fits ht, if_true]
  exact Takes.next? fun _ _ => Takes.pure

lemma takes_comparison?_notIn :
    Takes c comparison? (word .not :: word .isIn :: M) (some (.binary .notIn)) M := by
  refine Takes.ahead fun t ht => ?_
  have his : isKeyword .is t = false := isKeyword_of_kind_ne ht nofun
  simp only [ht.1, word, comparisonOp?, his, Bool.false_eq_true, if_false]
  have hahead : Takes c notInAhead (word .not :: word .isIn :: M) true
      (word .not :: word .isIn :: M) := by
    refine Takes.ahead fun t ht => ?_
    simp only [Option.any_some, isKeyword_of_fits ht, if_true]
    refine Takes.secondAhead fun u hu => ?_
    simp only [Option.any_some, isKeyword_of_fits hu]
    exact Takes.pure
  refine hahead.bind ?_
  simp only [if_true]
  exact Takes.next? fun _ _ => Takes.next? fun _ _ => Takes.pure

lemma takes_comparison?_none (hx : x.kind.level < 4) :
    Takes c comparison? (x :: M) none (x :: M) := by
  refine Takes.ahead fun t ht => ?_
  have hop : comparisonOp? x.kind = none := by
    unfold comparisonOp?
    split <;> first | rfl | simp_all [Kind.level]
  have his : isKeyword .is t = false :=
    isKeyword_of_kind_ne ht fun h => absurd hx (by rw [h]; decide)
  simp only [ht.1, hop, his, Bool.false_eq_true, if_false]
  have hahead : Takes c notInAhead (x :: M) false (x :: M) := by
    refine Takes.ahead fun t ht => ?_
    have hnot : isKeyword .not t = false :=
      isKeyword_of_kind_ne ht fun h => absurd hx (by rw [h]; decide)
    simp only [Option.any_some, hnot, Bool.false_eq_true, if_false]
    exact Takes.pure
  refine hahead.bind ?_
  simp only [Bool.false_eq_true, if_false]
  exact Takes.pure

lemma takes_testName (name : String) : Takes c testName (testShape name :: M) name M := by
  refine Takes.next fun t ht => ?_
  unfold testShape at ht
  split at ht
  all_goals
    obtain ⟨hkind, hspelling⟩ := ht
    simp only [hkind]
  · simp only [hspelling "none" rfl]
    exact Takes.pure
  · simp only [hspelling "null" rfl]
    exact Takes.pure
  · simp only [hspelling "true" rfl]
    exact Takes.pure
  · simp only [hspelling "false" rfl]
    exact Takes.pure
  · exact Takes.pure

lemma takes_testOf (hnested : Nested bound nested) (hm : m ≤ bound) {base : Expr} {name : String}
    {args : List Expr} {negated : Bool} (hR : Follows 10 R) :
    Takes (3 * sizeAll args ≤ m + 1) (testOf (nested m) base)
      ((if negated then [word .not] else []) ++
        (testShape name :: argShapes? (printedAll args)) ++ R)
      (.test base name args negated) R := by
  have hrest : Takes (3 * sizeAll args ≤ m + 1) (do
      let name ← testName
      return (.test base name (← arguments? (nested m)) negated : Expr))
      (testShape name :: argShapes? (printedAll args) ++ R) (.test base name args negated) R :=
    (takes_testName name).bind ((takes_arguments? hnested hm hR).bind Takes.pure)
  cases negated with
  | true => exact (Takes.eat_hit fun _ => isKeyword_of_fits).bind hrest
  | false =>
    have hname : (testShape name).kind ≠ .keyword .not := by
      unfold testShape
      split <;> nofun
    exact (Takes.eat_miss fun _ ht => isKeyword_of_kind_ne ht hname).bind hrest

lemma operands_comparisons (hnested : Nested bound nested) (hoperand : Operands 5 bound operand) :
    Operands 4 bound (comparisons nested operand) := by
  refine operands_between hoperand (fun e he => ?_) (fun R hR c => ?_)
  · cases e with
    | binary op left right =>
      have hop : op.level = 4 := he
      refine ⟨left, op.printed ++ printedAt 5 right, ?_, ?_, ?_, ?_⟩
      · rw [size]
        omega
      · rw [printedAt_of_le (Nat.le_of_eq he.symm), Expr.printed, hop]
        rfl
      · intro R
        cases op with
        | notIn => exact follows_cons (by decide)
        | _ => first | exact follows_cons (by decide) | cases hop
      · intro R hR
        refine ⟨.binary op, printedAt 5 right ++ R, fun c => ?_,
          fun m hm => takes_right hoperand hm hR⟩
        cases op with
        | notIn => exact takes_comparison?_notIn
        | _ => first | exact takes_comparison? rfl | cases hop
    | test base name args negated =>
      refine ⟨base, word .is :: ((if negated then [word .not] else []) ++
        (testShape name :: argShapes? (printedAll args))), ?_, rfl, ?_, ?_⟩
      · rw [size]
        omega
      · exact fun R => follows_cons (by decide)
      · intro R hR
        refine ⟨.test, _, fun c => takes_comparison?_is, fun m hm => ?_⟩
        refine (takes_testOf hnested (Nat.le_of_lt hm) (hR.mono (by decide))).mono fun h => ?_
        have := base.size_pos
        rw [size] at h
        omega
    | _ => cases he
  · obtain ⟨x, M, rfl, hx⟩ := hR
    exact takes_comparison?_none hx

end Comparisons

/-! ### Prefix operators -/

section Prefix

variable {operand : Nat → Parser Expr}

/-- Without a prefix operator, the operand stands for itself. -/
lemma takes_prefixed_none {a : Expr}
    (hx : x.kind ≠ .keyword .not ∧ x.kind ≠ .symbol .minus) (h : Takes c (operand n) (x :: X) a R) :
    Takes c (prefixed operand n) (x :: X) a R := by
  cases n with
  | zero =>
    exact (Takes.eat_miss fun _ ht => isKeyword_of_kind_ne ht hx.1).bind
      ((Takes.eat_other_sign hx.2).bind h)
  | succ n =>
    exact (Takes.eat_miss fun _ ht => isKeyword_of_kind_ne ht hx.1).bind
      ((Takes.eat_other_sign hx.2).bind h)

lemma takes_prefixed_unary {op : UnaryOp} {e : Expr} (h : Takes c (prefixed operand n) X e R) :
    Takes c (prefixed operand (n + 1)) (op.printed :: X) (.unary op e) R := by
  cases op with
  | not => exact (Takes.eat_hit fun _ => isKeyword_of_fits).bind (h.bind Takes.pure)
  | neg =>
    change Takes c _ (sign .minus :: X) _ _
    refine (Takes.eat_miss (x := sign .minus) fun _ ht => isKeyword_of_kind_ne ht nofun).bind ?_
    exact Takes.eat_sign.bind (h.bind Takes.pure)

lemma takes_prefixed_tooDeep {op : UnaryOp} {a : Expr} (h : ¬c) :
    Takes c (prefixed operand 0) (op.printed :: X) a R := by
  cases op with
  | not => exact (Takes.eat_hit fun _ => isKeyword_of_fits).bind (Takes.tooDeep h)
  | neg =>
    change Takes c _ (sign .minus :: X) _ _
    refine (Takes.eat_miss (x := sign .minus) fun _ ht => isKeyword_of_kind_ne ht nofun).bind ?_
    exact Takes.eat_sign.bind (Takes.tooDeep h)

lemma exists_unary (h : e.level = 8) : ∃ op e', e = unary op e' := by
  cases e with
  | unary op e' => exact ⟨op, e', rfl⟩
  | binary op _ _ =>
    have := BinaryOp.level_bounds op
    simp only [level] at h
    omega
  | _ => cases h

lemma takes_unprefixed (hoperand : Operands 9 bound operand) (hl : e.level ≠ 8) (hn : n ≤ bound)
    (hR : Follows 8 R) :
    Takes (cost 8 e ≤ n + 2) (prefixed operand n) (printedAt 8 e ++ R) e R := by
  have hread := hoperand (e := e) hn (hR.mono (Nat.le_succ 8))
  rw [printedAt_succ hl, cost_succ hl] at hread
  obtain ⟨x, X, hX, hx⟩ := e.exists_start_primary R
  rw [printedAt_succ hl] at hX
  rw [hX] at hread ⊢
  refine takes_prefixed_none ⟨fun h => ?_, fun h => ?_⟩ hread
  all_goals
    rw [h] at hx
    cases hx

lemma operands_prefixed (hoperand : Operands 9 bound operand) :
    Operands 8 bound (prefixed operand) := by
  intro e n R hn hR
  by_cases hl : e.level = 8
  · -- the induction is on the budget, which each prefix operator takes one level of
    induction n generalizing e with
    | zero =>
      obtain ⟨op, e', rfl⟩ := exists_unary hl
      rw [printedAt_of_le (Nat.le_of_eq hl.symm), cost_of_le (Nat.le_of_eq hl.symm)]
      refine takes_prefixed_tooDeep fun h => ?_
      rw [size] at h
      omega
    | succ n ih =>
      obtain ⟨op, e', rfl⟩ := exists_unary hl
      rw [printedAt_of_le (Nat.le_of_eq hl.symm), cost_of_le (Nat.le_of_eq hl.symm)]
      have hoperand' :
          Takes (cost 8 e' ≤ n + 2) (prefixed operand n) (printedAt 8 e' ++ R) e' R := by
        by_cases hl' : e'.level = 8
        · exact ih (Nat.le_of_succ_le hn) hl'
        · exact takes_unprefixed hoperand hl' (Nat.le_of_succ_le hn) hR
      refine takes_prefixed_unary (hoperand'.mono fun h => ?_)
      have := cost_le 8 e'
      rw [size] at h
      omega
  · exact takes_unprefixed hoperand hl hn hR

end Prefix

/-! ### Primaries and suffixes -/

section Suffix

variable {nested : Nat → Parser Expr} {base key : Expr} {args : List Expr}

lemma takes_literal (value : Literal) :
    Takes c (primary (nested n)) (value.printed :: R) (.lit value) R := by
  refine Takes.next fun t ht => ?_
  rcases value with _ | (_ | _) | _ | _ | _
  all_goals
    simp only [ht.1, Literal.printed, word]
    exact Takes.pure

lemma takes_variable (v : String) : Takes c (primary (nested n)) (name v :: R) (.var v) R := by
  refine Takes.next fun t ht => ?_
  simp only [ht.1, name]
  exact Takes.pure

lemma takes_list (hnested : Nested bound nested) (hn : n ≤ bound) {items : List Expr} :
    Takes (3 * sizeAll items ≤ n + 1) (primary (nested n))
      (sign .openBracket :: (commas (printedAll items) ++ sign .closeBracket :: R)) (.list items)
      R := by
  refine Takes.next fun t ht => ?_
  simp only [ht.1, sign]
  exact (takes_items hnested hn closes_bracket).bind Takes.pure

lemma takes_dict (hnested : Nested bound nested) (hn : n ≤ bound) {entries : List (Expr × Expr)} :
    Takes (3 * sizeEntries entries ≤ n + 1) (primary (nested n))
      (sign .openBrace :: (commas (printedEntries entries) ++ sign .closeBrace :: R))
      (.dict entries) R := by
  refine Takes.next fun t ht => ?_
  simp only [ht.1, sign]
  exact (takes_entries hnested hn).bind Takes.pure

lemma takes_parens (hnested : Nested bound nested) (hn : n ≤ bound) :
    Takes (3 * e.size ≤ n + 1) (primary (nested n))
      (sign .openParen :: (e.printed ++ sign .closeParen :: R)) e R := by
  refine Takes.next fun t ht => ?_
  simp only [ht.1, sign]
  refine (hnested hn (follows_sign rfl)).bind ?_
  exact Takes.expect (fun _ => isSymbol_of_fits) fun _ _ => Takes.pure

lemma takes_suffix? {s : Option Suffix} (h : suffix? x.kind = s) :
    Takes c (return (← ahead).bind (suffix? ·.kind)) (x :: M) s (x :: M) := by
  refine Takes.ahead fun t ht => ?_
  simp only [Option.bind_some, ht.1, h]
  exact Takes.pure

/-- A key stands in brackets unless it is a name. -/
lemma keyShapes_cases (key : Expr) (X : List Shape) :
    (∃ s, key = .str s ∧ keyShapes key X = [sign .dot, name s]) ∨
      keyShapes key X = sign .openBracket :: (X ++ [sign .closeBracket]) := by
  unfold keyShapes
  split
  · split
    · exact .inl ⟨_, rfl, rfl⟩
    · exact .inr rfl
  · exact .inr rfl

lemma takes_member {s : String} :
    Takes c (suffixOf (nested m) .member base) (sign .dot :: name s :: R)
      (.item base (.str s)) R := by
  refine Takes.next? fun _ _ => Takes.next fun t ht => ?_
  simp only [ht.1, name]
  exact Takes.pure

lemma takes_index (hnested : Nested bound nested) (hm : m ≤ bound) :
    Takes (3 * key.size ≤ m + 1) (suffixOf (nested m) .index base)
      (sign .openBracket :: (key.printed ++ sign .closeBracket :: R)) (.item base key) R := by
  refine Takes.next? fun _ _ => (hnested hm (follows_sign rfl)).bind ?_
  exact Takes.expect (fun _ => isSymbol_of_fits) fun _ _ => Takes.pure

lemma takes_filter (hnested : Nested bound nested) (hm : m ≤ bound) {f : String}
    (hR : Follows 10 R) :
    Takes (3 * sizeAll args ≤ m + 1) (suffixOf (nested m) .filter base)
      (sign .pipe :: name f :: (argShapes? (printedAll args) ++ R)) (.filter base f args) R := by
  refine Takes.next? fun _ _ => Takes.identifier.bind ?_
  exact (takes_arguments? hnested hm hR).bind Takes.pure

lemma takes_call (hnested : Nested bound nested) (hm : m ≤ bound) {f : String} :
    Takes (3 * sizeAll args ≤ m + 1) (suffixOf (nested m) .call (.var f))
      (sign .openParen :: (commas (printedAll args) ++ sign .closeParen :: R)) (.call f args) R :=
  Takes.next fun _ _ => (takes_arguments hnested hm).bind Takes.pure

lemma takes_callMember (hnested : Nested bound nested) (hm : m ≤ bound) {member : String} :
    Takes (3 * sizeAll args ≤ m + 1) (suffixOf (nested m) .call (.item base (.str member)))
      (sign .openParen :: (commas (printedAll args) ++ sign .closeParen :: R))
      (.callMember base member args) R :=
  Takes.next fun _ _ => (takes_arguments hnested hm).bind Takes.pure

/-- Expressions that can be called. -/
def isCallee : Expr → Bool
  | .var _ | .item _ (.lit (.str _)) => true
  | _ => false

/-- An opening parenthesis makes a call of a name or a member, and is not to stand behind anything
else. -/
def Called (e : Expr) (R : List Shape) : Prop :=
  Follows 10 R ∨ e.isCallee = true ∧ ∃ M, R = sign .openParen :: M

lemma Called.follows (h : Called e R) (he : e.isCallee = false) : Follows 10 R :=
  h.resolve_right fun hcallee => by rw [he] at hcallee; exact absurd hcallee.1 nofun

/-- A suffix makes `e` of `left`. -/
def Suffixed (nested : Nat → Parser Expr) (bound : Nat) (left : Expr) (Y : List Shape) (e : Expr) :
    Prop :=
  Extends (return (← ahead).bind (suffix? ·.kind)) (fun s m e => suffixOf (nested m) s e) Called 9
    bound left Y e

lemma suffixed_item (hnested : Nested bound nested) :
    Suffixed nested bound base (keyShapes key key.printed) (.item base key) := by
  refine ⟨by rw [size]; omega, rfl, fun R => .inl ?_, fun R _ => ?_⟩
  · rcases keyShapes_cases key key.printed with ⟨s, -, hkey⟩ | hkey
    · rw [hkey]
      exact follows_cons (by decide)
    · rw [hkey]
      exact follows_cons (by decide)
  · rcases keyShapes_cases key key.printed with ⟨s, rfl, hkey⟩ | hkey
    · rw [hkey]
      exact ⟨.member, _, fun c => takes_suffix? rfl, fun m hm => takes_member⟩
    · rw [hkey, List.cons_append, List.append_assoc]
      refine ⟨.index, _, fun c => takes_suffix? rfl, fun m hm => ?_⟩
      refine (takes_index hnested (Nat.le_of_lt hm)).mono fun h => ?_
      have := base.size_pos
      rw [size] at h
      omega

lemma suffixed_filter (hnested : Nested bound nested) {f : String} :
    Suffixed nested bound base (sign .pipe :: name f :: argShapes? (printedAll args))
      (.filter base f args) := by
  refine ⟨by rw [size]; omega, rfl, fun R => .inl (follows_cons (by decide)), fun R hR => ?_⟩
  refine ⟨.filter, _, fun c => takes_suffix? rfl, fun m hm => ?_⟩
  refine (takes_filter hnested (Nat.le_of_lt hm) (hR.follows rfl)).mono fun h => ?_
  have := base.size_pos
  rw [size] at h
  omega

lemma suffixed_call (hnested : Nested bound nested) {f : String} :
    Suffixed nested bound (.var f) (argShapes (printedAll args)) (.call f args) := by
  refine ⟨by rw [size, size]; omega, rfl, fun R => .inr ⟨rfl, _, rfl⟩, fun R _ => ?_⟩
  rw [argShapes, List.cons_append, List.append_assoc]
  refine ⟨.call, _, fun c => takes_suffix? rfl, fun m hm => ?_⟩
  refine (takes_call hnested (Nat.le_of_lt hm)).mono fun h => ?_
  rw [size, size] at h
  omega

lemma suffixed_callMember (hnested : Nested bound nested) {member : String} :
    Suffixed nested bound (.item base (.str member)) (argShapes (printedAll args))
      (.callMember base member args) := by
  have hsize : (callMember base member args).size
      = (item base (.str member)).size + sizeAll args + 1 := by
    simp only [size, Expr.str]
    omega
  refine ⟨by omega, (List.append_assoc _ _ _).symm, fun R => .inr ⟨rfl, _, rfl⟩, fun R _ => ?_⟩
  rw [argShapes, List.cons_append, List.append_assoc]
  refine ⟨.call, _, fun c => takes_suffix? rfl, fun m hm => ?_⟩
  refine (takes_callMember hnested (Nat.le_of_lt hm)).mono fun h => ?_
  have := (item base (.str member)).size_pos
  omega

lemma splits_postfixed (hnested : Nested bound nested) :
    Splits (return (← ahead).bind (suffix? ·.kind)) (fun s m e => suffixOf (nested m) s e)
      (fun n => primary (nested n)) Called 9 bound := by
  intro e
  by_cases hl : e.level < 9
  · left
    intro n R hn hR
    rw [printedAt_of_lt hl, cost_of_lt hl, List.cons_append, List.append_assoc]
    exact (takes_parens hnested hn).mono (by omega)
  cases e with
  | lit value => exact .inl fun n R _ _ => takes_literal value
  | var v => exact .inl fun n R _ _ => takes_variable v
  | list items =>
    left
    intro n R hn hR
    rw [printedAt_of_le (Nat.le_refl 9), cost_of_le (Nat.le_refl 9), Expr.printed, List.cons_append,
      List.append_assoc, size]
    exact (takes_list hnested hn).mono (by omega)
  | dict entries =>
    left
    intro n R hn hR
    rw [printedAt_of_le (Nat.le_refl 9), cost_of_le (Nat.le_refl 9), Expr.printed, List.cons_append,
      List.append_assoc, size]
    exact (takes_dict hnested hn).mono (by omega)
  | item base key => exact .inr ⟨_, _, suffixed_item hnested⟩
  | filter base f args => exact .inr ⟨_, _, suffixed_filter hnested⟩
  | call f args => exact .inr ⟨_, _, suffixed_call hnested⟩
  | callMember base member args => exact .inr ⟨_, _, suffixed_callMember hnested⟩
  | unary | test | choice => exact absurd (by simp [level]) hl
  | binary op left right =>
    have := BinaryOp.level_bounds op
    rw [level] at hl
    omega

lemma operands_postfixed (hnested : Nested bound nested) :
    Operands 9 bound (postfixed nested) := by
  refine operands_suffixes Called (splits_postfixed hnested)
    (fun e R hR => .inl (hR.mono (by decide))) fun R hR c => ?_
  obtain ⟨x, M, rfl, hx⟩ := hR
  refine takes_suffix? ?_
  unfold suffix?
  split
  all_goals first | rfl | simp_all [Kind.level]

end Suffix

end Expr

end Stencil
