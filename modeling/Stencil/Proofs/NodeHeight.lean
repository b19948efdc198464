import Stencil.Proofs.Except
import Stencil.Proofs.Gives

/-! How many directives and operators stand above each other in a syntax tree. The budget of the
parser bounds the operators of each level of precedence on its own, so that those of all levels add
up, and once more behind each bracket. -/
namespace Stencil

/-! ### Heights -/

namespace Expr

mutual

/-- The most operators on a path from the root to a leaf: each unary or binary operator, filter,
test, call, member, index and conditional counts one. -/
@[simp] def height : Expr → Nat
  | .lit _ | .var _ => 0
  | .list items => heightAll items
  | .dict entries => heightEntries entries
  | .item base key => max (height base) (height key) + 1
  | .binary _ left right => max (height left) (height right) + 1
  | .unary _ operand => height operand + 1
  | .filter base _ args => max (height base) (heightAll args) + 1
  | .test base _ args _ => max (height base) (heightAll args) + 1
  | .call _ args => heightAll args + 1
  | .callMember base _ args => max (height base + 1) (heightAll args) + 1
  | .choice value condition otherwise =>
    max (height value) (max (height condition) (heightOption otherwise)) + 1

@[simp] def heightAll : List Expr → Nat
  | [] => 0
  | e :: more => max (height e) (heightAll more)

@[simp] def heightEntries : List (Expr × Expr) → Nat
  | [] => 0
  | (key, value) :: more => max (max (height key) (height value)) (heightEntries more)

@[simp] def heightOption : Option Expr → Nat
  | none => 0
  | some e => height e

end

variable {n h k : Nat}

lemma heightAll_le {args : List Expr} : heightAll args ≤ h ↔ ∀ e ∈ args, e.height ≤ h := by
  induction args with
  | nil => simp [heightAll]
  | cons e args ih => rw [heightAll, Nat.max_le, ih, List.forall_mem_cons]

lemma heightEntries_le {entries : List (Expr × Expr)} :
    heightEntries entries ≤ h ↔ ∀ b ∈ entries, b.1.height ≤ h ∧ b.2.height ≤ h := by
  induction entries with
  | nil => simp [heightEntries]
  | cons b entries ih => rw [heightEntries, Nat.max_le, Nat.max_le, ih, List.forall_mem_cons]

/-! ### Expressions -/

open Stencil.Parser

section Levels

variable {α : Type} {operator : Parser (Option α)} {apply : α → Nat → Expr → Parser Expr}
  {nested operand : Nat → Parser Expr} {bound : Nat}

/-- All results are this low. -/
def Low (h : Nat) (p : Parser Expr) : Prop := Gives (fun e => e.height ≤ h) p

lemma Low.mono {h' : Nat} {p : Parser Expr} (hp : Low h p) (hh : h ≤ h') : Low h' p :=
  Gives.mono hp fun _ he => Nat.le_trans he hh

/-- What is read with budgets up to a bound is no higher than `h`, and `k` for each level of the
budget. -/
def Lows (h k bound : Nat) (p : Nat → Parser Expr) : Prop := ∀ n ≤ bound, Low (h + k * n) (p n)

/-- Where each operator adds at most `d`, the budget says how much they add together. -/
lemma low_suffixes {d : Nat}
    (happly : ∀ o, ∀ m < n, ∀ e : Expr, ∀ h' ≥ h, e.height ≤ h' → Low (h' + d) (apply o m e))
    {e : Expr} (he : e.height ≤ h) : Low (h + d * n) (suffixes operator apply n e) := by
  induction n generalizing h e with
  | zero =>
    refine Gives.after fun found => ?_
    cases found with
    | none => exact Gives.pure he
    | some o => exact gives_tooDeep
  | succ n ih =>
    refine Gives.after fun found => ?_
    cases found with
    | none => exact Gives.pure (Nat.le_add_right_of_le he)
    | some o =>
      refine (happly o n (Nat.lt_succ_self n) e h (Nat.le_refl h) he).bind fun e' he' => ?_
      have hrest :=
        ih (fun o m hm e h' hh' => happly o m (Nat.lt_succ_of_lt hm) e h' (by omega)) he'
      rw [Nat.mul_succ, Nat.add_comm (d * n), ← Nat.add_assoc]
      exact hrest

lemma lows_suffixes {d : Nat} {first : Nat → Parser Expr} (hfirst : Lows h k bound first)
    (happly : ∀ o, ∀ m < bound, ∀ e : Expr, ∀ h' ≥ h + k * m, e.height ≤ h' →
      Low (h' + d) (apply o m e)) :
    Lows h (k + d) bound (fun n => first n >>= suffixes operator apply n) := by
  intro n hn
  rw [Nat.add_mul, ← Nat.add_assoc]
  refine (hfirst n hn).bind fun e he => low_suffixes (fun o m hm e h' hh' => ?_) he
  have := Nat.mul_le_mul_left k (Nat.le_of_lt hm)
  exact happly o m (by omega) e h' (by omega)

lemma lows_leftAssoc {ops : Token.Kind → Option BinaryOp} (hoperand : Lows h k bound operand) :
    Lows h (k + 1) bound (leftAssoc ops operand) := by
  refine lows_suffixes hoperand fun op m hm left h' hh' hleft => ?_
  refine (hoperand m (Nat.le_of_lt hm)).bind fun right hright => Gives.pure ?_
  rw [height, Nat.add_le_add_iff_right]
  exact Nat.max_le.mpr ⟨hleft, Nat.le_trans hright hh'⟩

lemma low_testOf {p : Parser Expr} (hp : Low h p) {e : Expr} (he : e.height ≤ h) :
    Low (h + 1) (testOf p e) := by
  refine Gives.after fun negated => Gives.after fun name => ?_
  refine (Node.gives_arguments? hp).bind fun args hargs => Gives.pure ?_
  rw [height, Nat.add_le_add_iff_right]
  exact Nat.max_le.mpr ⟨he, heightAll_le.mpr hargs⟩

lemma lows_comparisons (hnested : Lows h 0 bound nested) (hoperand : Lows h k bound operand) :
    Lows h (k + 1) bound (comparisons nested operand) := by
  refine lows_suffixes hoperand fun op m hm left h' hh' hleft => ?_
  cases op with
  | binary op =>
    refine (hoperand m (Nat.le_of_lt hm)).bind fun right hright => Gives.pure ?_
    rw [height, Nat.add_le_add_iff_right]
    exact Nat.max_le.mpr ⟨hleft, Nat.le_trans hright hh'⟩
  | test => exact low_testOf ((hnested m (Nat.le_of_lt hm)).mono (by omega)) hleft

lemma lows_prefixed (hk : 1 ≤ k) (hoperand : Lows h k bound operand) :
    Lows h k bound (prefixed operand) := by
  intro n hn
  induction n with
  | zero =>
    refine Gives.after fun found => Gives.ite gives_tooDeep ?_
    exact Gives.after fun found => Gives.ite gives_tooDeep (hoperand 0 hn)
  | succ n ih =>
    have hunary : ∀ op, Low (h + k * (n + 1)) (do return .unary op (← prefixed operand n)) := by
      intro op
      refine (ih (Nat.le_of_succ_le hn)).bind fun e he => Gives.pure ?_
      rw [height, Nat.mul_succ]
      omega
    refine Gives.after fun found => Gives.ite (hunary .not) ?_
    exact Gives.after fun found => Gives.ite (hunary .neg) (hoperand (n + 1) hn)

/-- A number has two parts at most. -/
lemma height_members {lexeme : List Char} {indices : List Int64}
    (hindices : (numberParts lexeme).mapM Decimal.readInt? = some indices) {e : Expr}
    (he : e.height ≤ h) :
    (indices.foldl (fun e i => Expr.item e (.int i)) e).height ≤ h + 2 := by
  have hlength : indices.length ≤ 2 := by
    unfold numberParts at hindices
    split at hindices
    all_goals
      simp only [List.mapM_cons, List.mapM_nil, Option.bind_eq_bind, Option.bind_eq_some_iff,
        Option.pure_def, Option.some.injEq] at hindices
      grind
  have hfold : ∀ indices : List Int64, ∀ e : Expr,
      (indices.foldl (fun e i => Expr.item e (.int i)) e).height = e.height + indices.length := by
    intro indices
    induction indices with
    | nil => exact fun _ => rfl
    | cons i indices ih =>
      intro e
      rw [List.foldl_cons, ih, List.length_cons, height, int, height]
      omega
  rw [hfold]
  omega

/-- A point between two numbers makes two members at once. -/
lemma low_memberOf {e : Expr} (he : e.height ≤ h) : Low (h + 2) (memberOf e) := by
  refine Gives.after fun t => ?_
  split
  · refine Gives.pure ?_
    simp only [height, str]
    omega
  · refine Gives.pure ?_
    simp only [height, int]
    omega
  · split
    · rename_i indices hindices
      exact Gives.pure (height_members hindices he)
    · exact gives_fail
  · exact gives_fail

lemma low_callOf {p : Parser Expr} (hp : Low h p) {e : Expr} (he : e.height ≤ h) :
    Low (h + 1) (callOf p e) := by
  refine Gives.after fun t => ?_
  split
  · refine (Gives.commaList hp).bind fun args hargs => Gives.pure ?_
    rw [height, Nat.add_le_add_iff_right]
    exact heightAll_le.mpr hargs
  · rename_i base member
    refine (Gives.commaList hp).bind fun args hargs => Gives.pure ?_
    rw [height, Nat.add_le_add_iff_right]
    refine Nat.max_le.mpr ⟨?_, heightAll_le.mpr hargs⟩
    exact Nat.le_trans (Nat.succ_le_succ (Nat.le_max_left _ _)) he
  · exact gives_fail

lemma low_suffixOf {p : Parser Expr} (hp : Low h p) (s : Suffix) {e : Expr} (he : e.height ≤ h) :
    Low (h + 2) (suffixOf p s e) := by
  cases s with
  | member => exact Gives.after fun _ => low_memberOf he
  | index =>
    refine Gives.after fun _ => hp.bind fun key hkey => Gives.after fun _ => Gives.pure ?_
    rw [height]
    omega
  | call => exact (low_callOf hp he).mono (Nat.le_succ _)
  | filter =>
    refine Gives.after fun _ => Gives.after fun name => ?_
    refine (Node.gives_arguments? hp).bind fun args hargs => Gives.pure ?_
    have := heightAll_le.mpr hargs
    rw [height]
    omega

lemma low_primary {p : Parser Expr} (hp : Low h p) : Low h (primary p) := by
  have hatom : ∀ {e : Expr}, e.height = 0 → Low h (pure e) := fun he =>
    Gives.pure (Nat.le_trans (Nat.le_of_eq he) (Nat.zero_le h))
  refine Gives.after fun t => ?_
  split
  iterate 7 exact hatom rfl
  · exact hp.bind fun e he => Gives.after fun _ => Gives.pure he
  · exact (Gives.commaList hp).bind fun items hitems => Gives.pure (heightAll_le.mpr hitems)
  · refine (Gives.commaList (Q := fun b => b.1.height ≤ h ∧ b.2.height ≤ h) ?_).bind
      fun entries hentries => Gives.pure (heightEntries_le.mpr hentries)
    exact hp.bind fun key hkey => Gives.after fun _ => hp.bind fun value hvalue =>
      Gives.pure ⟨hkey, hvalue⟩
  · exact gives_fail

lemma lows_postfixed (hnested : Lows h 0 bound nested) : Lows h 2 bound (postfixed nested) := by
  have hprimary : Lows h 0 bound fun n => primary (nested n) := fun n hn =>
    (low_primary (hnested n hn)).mono (by omega)
  change Lows h (0 + 2) bound _
  refine lows_suffixes hprimary fun s m hm e h' hh' he => ?_
  exact low_suffixOf ((hnested m (Nat.le_of_lt hm)).mono (by omega)) s he

lemma lows_operators (hnested : Lows h 0 bound nested) : Lows h 8 bound (operators nested) :=
  lows_leftAssoc <| lows_leftAssoc <| lows_comparisons hnested <| lows_leftAssoc <|
    lows_leftAssoc <| lows_leftAssoc <| lows_prefixed (by decide) <| lows_postfixed hnested

lemma low_conditional {p q : Parser Expr} (hp : Low h p) (hq : Low h q) :
    Low (h + 1) (conditional p q) := by
  refine hq.bind fun value hvalue => Gives.after fun found => Gives.ite ?_ ?_
  · refine hq.bind fun condition hcondition => Gives.after fun found => Gives.ite ?_ ?_
    · refine hp.bind fun e he => Gives.pure ?_
      rw [height, Nat.add_le_add_iff_right]
      exact Nat.max_le.mpr ⟨hvalue, Nat.max_le.mpr ⟨hcondition, he⟩⟩
    · refine Gives.pure ?_
      rw [height, Nat.add_le_add_iff_right]
      exact Nat.max_le.mpr ⟨hvalue, Nat.max_le.mpr ⟨hcondition, Nat.zero_le h⟩⟩
  · exact Gives.pure (Nat.le_succ_of_le hvalue)

end Levels

/-- A level of the budget adds a conditional, two members for each level left, and an operator of
each of the six levels between them. -/
def limit : (budget : Nat) → Nat
  | 0 => 0
  | n + 1 => limit n + 8 * n + 1

lemma limit_mono {m : Nat} (h : m ≤ n) : limit m ≤ limit n := by
  induction h with
  | refl => exact Nat.le_refl _
  | step _ ih => rw [limit]; omega

lemma low_parserUpTo (bound m : Nat) : Low (limit bound) (parserUpTo bound m) := by
  induction bound generalizing m with
  | zero => exact gives_tooDeep
  | succ n ih =>
    rw [parserUpTo]
    refine Gives.ite ((ih m).mono (limit_mono (Nat.le_succ n))) ?_
    have hnested : Lows (limit n) 0 n (parserUpTo n) := fun m _ => (ih m).mono (by omega)
    rw [limit]
    exact low_conditional ((ih n).mono (by omega)) (lows_operators hnested n (Nat.le_refl n))

end Expr

/-! ### Templates -/

namespace Node

open Stencil.Parser Stencil.Expr

mutual

/-- The most directives and operators on a path from the node to a leaf, each directive counting
one. -/
@[simp] def height : Node → Nat
  | .text _ | .comment => 0
  | .print expr _ => expr.height
  | .raw _ | .exitLoop _ | .nextItem _ => 1
  | .assign _ value _ => value.height + 1
  | .extending path _ | .importing path _ _ | .including path _ => path.height + 1
  | .branch condition body more otherwise _ =>
    max (max condition.height (heightAll body))
      (max (heightBranches more) (heightOption otherwise)) + 1
  | .forEach _ iterable body otherwise _ =>
    max iterable.height (max (heightAll body) (heightOption otherwise)) + 1
  | .macroDef _ params body _ =>
    max (Expr.heightAll (params.filterMap (·.default))) (heightAll body) + 1
  | .callBlock callee args body _ =>
    max (max callee.expr.height (Expr.heightAll args)) (heightAll body) + 1
  | .block _ body _ | .autoescape _ body _ => heightAll body + 1
  | .filterBlock filters body _ =>
    max (Expr.heightAll (filters.flatMap (·.args))) (heightAll body) + 1
  | .scoped bindings body _ => max (Expr.heightAll (bindings.map (·.2))) (heightAll body) + 1

@[simp] def heightAll : List Node → Nat
  | [] => 0
  | node :: more => max (height node) (heightAll more)

@[simp] def heightBranches : List (Expr × List Node) → Nat
  | [] => 0
  | (condition, body) :: more => max (max condition.height (heightAll body)) (heightBranches more)

@[simp] def heightOption : Option (List Node) → Nat
  | none => 0
  | some body => heightAll body

end

variable {h : Nat}

lemma heightAll_le {nodes : List Node} : heightAll nodes ≤ h ↔ ∀ node ∈ nodes, node.height ≤ h := by
  induction nodes with
  | nil => simp [heightAll]
  | cons node more ih => rw [heightAll, Nat.max_le, ih, List.forall_mem_cons]

lemma heightBranches_le {more : List (Expr × List Node)} :
    heightBranches more ≤ h ↔ ∀ b ∈ more, b.1.height ≤ h ∧ heightAll b.2 ≤ h := by
  induction more with
  | nil => simp [heightBranches]
  | cons b more ih => rw [heightBranches, Nat.max_le, Nat.max_le, ih, List.forall_mem_cons]

lemma heightOption_le {otherwise : Option (List Node)} :
    heightOption otherwise ≤ h ↔ ∀ body ∈ otherwise.toList, heightAll body ≤ h := by
  cases otherwise <;> simp [heightOption]

/-- A directive stands one above what it is made of. -/
lemma height_le {node : Node}
    (hnode : MadeOf (fun e => e.height ≤ h) (fun body => heightAll body ≤ h) node) :
    node.height ≤ h + 1 := by
  obtain ⟨hexprs, hbodies⟩ := hnode
  cases node with
  | branch condition body more otherwise pos =>
    obtain ⟨hcondition, hconditions⟩ := List.forall_mem_cons.mp hexprs
    obtain ⟨hbody, hrest⟩ := List.forall_mem_cons.mp hbodies
    obtain ⟨hmore, hotherwise⟩ := List.forall_mem_append.mp hrest
    rw [height, Nat.add_le_add_iff_right]
    refine Nat.max_le.mpr ⟨Nat.max_le.mpr ⟨hcondition, hbody⟩, Nat.max_le.mpr ⟨?_, ?_⟩⟩
    · exact heightBranches_le.mpr fun b hb =>
        ⟨List.forall_mem_map.mp hconditions b hb, List.forall_mem_map.mp hmore b hb⟩
    · exact heightOption_le.mpr hotherwise
  | forEach binding iterable body otherwise pos =>
    obtain ⟨hbody, hotherwise⟩ := List.forall_mem_cons.mp hbodies
    rw [height, Nat.add_le_add_iff_right]
    exact Nat.max_le.mpr ⟨hexprs _ (List.mem_singleton_self _),
      Nat.max_le.mpr ⟨hbody, heightOption_le.mpr hotherwise⟩⟩
  | macroDef | filterBlock | «scoped» =>
    rw [height, Nat.add_le_add_iff_right]
    exact Nat.max_le.mpr ⟨Expr.heightAll_le.mpr hexprs, hbodies _ (List.mem_singleton_self _)⟩
  | callBlock callee args body pos =>
    obtain ⟨hcallee, hargs⟩ := List.forall_mem_cons.mp hexprs
    rw [height, Nat.add_le_add_iff_right]
    exact Nat.max_le.mpr ⟨Nat.max_le.mpr ⟨hcallee, Expr.heightAll_le.mpr hargs⟩,
      hbodies _ (List.mem_singleton_self _)⟩
  | block | autoescape =>
    rw [height, Nat.add_le_add_iff_right]
    exact hbodies _ (List.mem_singleton_self _)
  | print expr pos => exact Nat.le_succ_of_le (hexprs _ (List.mem_singleton_self expr))
  | assign | extending | importing | including =>
    rw [height, Nat.add_le_add_iff_right]
    exact hexprs _ (List.mem_singleton_self _)
  | text | comment => exact Nat.zero_le _
  | raw | exitLoop | nextItem => exact Nat.le_add_left 1 h

lemma inherits_height : Inherits (fun e => e.height ≤ h) := by
  constructor
  · intro name args hcall
    exact ⟨Nat.zero_le h, Expr.heightAll_le.mp (Nat.le_of_succ_le hcall)⟩
  · intro base member args hcall
    rw [Expr.height] at hcall
    obtain ⟨hbase, hargs⟩ := Nat.max_le.mp (Nat.le_of_succ_le hcall)
    refine ⟨?_, Expr.heightAll_le.mp hargs⟩
    change max base.height 0 + 1 ≤ h
    rw [Nat.max_zero]
    exact hbase

lemma gives_height (n : Nat) : Gives (fun nodes => heightAll nodes ≤ limit n) (parser n) := by
  induction n with
  | zero =>
    unfold parser
    refine (Gives.repeatWhile (Q := fun node => node.height ≤ 0) fun _ t => ?_).mono
      fun _ h => heightAll_le.mpr h
    split
    · exact Gives.pure (Nat.le_refl 0)
    · exact Gives.pure (Nat.le_refl 0)
    · exact (low_parserUpTo 0 0).bind fun e he => Gives.after fun _ => Gives.pure he
    · exact gives_tooDeep
    · exact gives_fail
  | succ n ih =>
    unfold parser
    refine (Gives.repeatWhile (Q := fun node => node.height ≤ limit (n + 1)) fun _ t => ?_).mono
      fun _ h => heightAll_le.mpr h
    split
    · exact Gives.pure (Nat.zero_le _)
    · exact Gives.pure (Nat.zero_le _)
    · exact (low_parserUpTo (n + 1) (n + 1)).bind fun e he => Gives.after fun _ => Gives.pure he
    · refine (gives_directive inherits_height (low_parserUpTo n n) ih t.pos).bind
        fun node hnode => Gives.pure ?_
      refine Nat.le_trans (height_le hnode) ?_
      rw [limit]
      omega
    · exact gives_fail

lemma low_template : Gives (fun nodes => heightAll nodes ≤ limit maxNesting) template := by
  refine (gives_height maxNesting).bind fun nodes hnodes => Gives.after fun start => ?_
  split
  · exact Gives.pure hnodes
  · exact Gives.after fun _ => Gives.after fun _ => gives_fail

/-- No path of an accepted template has more directives and operators than the levels of precedence
together have room for. -/
theorem heightAll_le_of_ofSource {choice : Option Dialect} {source : String}
    {r : List Node × Dialect} (h : ofSource choice source = .ok r) :
    heightAll r.1 ≤ maxNesting * (4 * maxNesting - 3) := by
  unfold ofSource at h
  split at h
  · cases h
  · rename_i s hs
    unfold ofTokens at h
    cases hr : template ⟨s.dialect, s.fault, s.stop⟩ s.tokens with
    | error e =>
      rw [hr] at h
      cases h
    | ok parsed =>
      rw [hr] at h
      cases h
      exact low_template hr

/-- Thirty-three products and as many sums on one left spine. -/
def sums : String :=
  String.ofList (['{', '{', ' ', '1'] ++ (List.replicate 33 ['*', '1']).flatten ++
    (List.replicate 33 ['+', '1']).flatten ++ [' ', '}', '}'])

/-- More operators than the limit says stand above each other if they are of two levels. -/
theorem heightAll_le_of_ofSource_sums :
    ∃ r, ofSource (some .jinja) sums = .ok r ∧ maxNesting < heightAll r.1 ∧
      heightAll r.1 ≤ maxNesting * (4 * maxNesting - 3) := by
  have hheight : (ofSource (some .jinja) sums).toOption.map (heightAll ·.1) = some 66 := by
    decide +kernel
  obtain ⟨r, hr, h66⟩ := Option.map_eq_some_iff.mp hheight
  have hsums := Except.eq_ok_of_toOption hr
  exact ⟨r, hsums, by rw [h66]; decide, heightAll_le_of_ofSource hsums⟩

end Node

end Stencil
