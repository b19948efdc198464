import Mathlib
import Stencil.Proofs.Operands

/-! What is printed is read back: the tokens of an expression are parsed to that expression, unless
they are nested too deeply. -/
namespace Stencil

open Token Shape Stencil.Parser

namespace Expr

variable {c : Prop} {α : Type} {x : Shape} {X M R R' : List Shape} {e e' : Expr} {l n m bound : Nat}

/-! ### All levels -/

section Levels

variable {nested : Nat → Parser Expr}

lemma tells_or : Tells orOp? 2 where
  printed op h := by cases op <;> first | exact ⟨_, rfl, rfl, rfl⟩ | cases h
  level k h := by
    unfold orOp?
    split <;> first | rfl | simp_all [Kind.level]

lemma tells_and : Tells andOp? 3 where
  printed op h := by cases op <;> first | exact ⟨_, rfl, rfl, rfl⟩ | cases h
  level k h := by
    unfold andOp?
    split <;> first | rfl | simp_all [Kind.level]

lemma tells_concat : Tells concatOp? 5 where
  printed op h := by cases op <;> first | exact ⟨_, rfl, rfl, rfl⟩ | cases h
  level k h := by
    unfold concatOp?
    split <;> first | rfl | simp_all [Kind.level]

lemma tells_additive : Tells additiveOp? 6 where
  printed op h := by cases op <;> first | exact ⟨_, rfl, rfl, rfl⟩ | cases h
  level k h := by
    unfold additiveOp?
    split <;> first | rfl | simp_all [Kind.level]

lemma tells_multiplicative : Tells multiplicativeOp? 7 where
  printed op h := by cases op <;> first | exact ⟨_, rfl, rfl, rfl⟩ | cases h
  level k h := by
    unfold multiplicativeOp?
    split <;> first | rfl | simp_all [Kind.level]

lemma operands_operators (hnested : Nested bound nested) :
    Operands 2 bound (operators nested) :=
  operands_leftAssoc tells_or (by decide) <|
    operands_leftAssoc tells_and (by decide) <|
      operands_comparisons hnested <|
        operands_leftAssoc tells_concat (by decide) <|
          operands_leftAssoc tells_additive (by decide) <|
            operands_leftAssoc tells_multiplicative (by decide) <|
              operands_prefixed <|
                operands_postfixed hnested

lemma takes_word {word : String} : Takes c (eat (isWord word)) (name word :: M) true M :=
  Takes.eat_hit fun t ht => by simp only [isWord, name?_of_fits ht, decide_true]

lemma takes_word_none {word : String} (hword : word = "if" ∨ word = "else") (hR : Follows 1 R) :
    Takes c (eat (isWord word)) R false R := by
  obtain ⟨x, M, rfl, hx⟩ := hR
  refine Takes.eat_miss fun t ht => isWord_of_kind_ne ht fun hkind => ?_
  rw [hkind, Kind.level, if_pos hword] at hx
  exact Nat.lt_irrefl 1 hx

lemma takes_conditional (hnested : Nested bound nested) (hn : n ≤ bound) (hR : Follows 1 R) :
    Takes (3 * e.size ≤ n + 2) (conditional (nested n) (operators nested n))
      (e.printed ++ R) e R := by
  have hoperand := operands_operators hnested
  by_cases hl : e.level = 1
  · cases e with
    | choice value condition otherwise =>
      have hvalue := cost_le 2 value
      have hcondition := cost_le 2 condition
      rw [Expr.printed, List.append_assoc, List.cons_append, List.append_assoc, size]
      refine ((hoperand hn (follows_cons (by decide))).mono (by omega)).bind ?_
      refine takes_word.bind ?_
      simp only [if_true]
      cases otherwise with
      | none =>
        refine ((hoperand hn (hR.mono (by decide))).mono (by omega)).bind ?_
        exact (takes_word_none (.inr rfl) hR).bind Takes.pure
      | some e =>
        rw [printedElse, List.cons_append, sizeOption]
        refine ((hoperand hn (follows_cons (by decide))).mono (by omega)).bind ?_
        refine takes_word.bind ?_
        exact ((hnested hn hR).mono (by omega)).bind Takes.pure
    | binary op left right =>
      have := BinaryOp.level_bounds op
      rw [level] at hl
      omega
    | _ => cases hl
  · have hlevel := e.level_pos
    have hread := hoperand (e := e) hn (hR.mono (by decide))
    rw [printedAt_of_le (by omega), cost_of_le (by omega)] at hread
    exact hread.bind ((takes_word_none (.inl rfl) hR).bind Takes.pure)

lemma nested_parserUpTo (bound : Nat) : Nested bound (parserUpTo bound) := by
  induction bound with
  | zero =>
    intro e n R hn hR
    refine Takes.tooDeep ?_
    have := e.size_pos
    omega
  | succ bound ih =>
    intro e n R hn hR
    rw [parserUpTo]
    split
    · rename_i h
      exact ih h hR
    · rename_i h
      exact (takes_conditional ih (Nat.le_refl bound) hR).mono (by omega)

/-- What is printed is read back with any budget that is at least three times the size. -/
lemma takes_within (hR : Follows 1 R) :
    Takes (3 * e.size ≤ n + 1) (parser n) (e.printed ++ R) e R :=
  nested_parserUpTo n (Nat.le_refl n) hR

end Levels

end Expr

/-! ### Interpolations -/

namespace Node

/-- The tokens of an interpolation of an expression. -/
def interpolation (e : Expr) : List Shape :=
  ⟨.printStart, none⟩ :: (e.printed ++ [⟨.printEnd, none⟩])

variable {s : Source} {t : Token} {ts : List Token} {e : Expr}

/-- The part of the parser of nodes that reads an interpolation behind its start. -/
def printed (t : Token) : Parser (Node × Bool) := do
  let e ← Expr.parser maxNesting
  let _ ← expect isPrintEnd "end of interpolation"
  return (.print e t.pos, true)

lemma takes_printed :
    Takes (3 * e.size ≤ maxNesting + 1) (printed t) (e.printed ++ [⟨.printEnd, none⟩])
      (.print e t.pos, true) [] := by
  refine (Expr.takes_within (Expr.follows_cons (by decide))).bind ?_
  refine Takes.expect (fun t ht => ?_) fun _ _ => Takes.pure
  unfold isPrintEnd
  rw [ht.1]

lemma run_repeatWhile {α β : Type} {more : Parser (Option β)} {item : β → Token → Parser (α × Bool)}
    {a : α} {as : List α} {b : β} {rest rest' : List Token} {h₀ h₁ h₂}
    (hmore : more s (t :: ts) = .ok ⟨some b, t :: ts, h₀⟩)
    (hitem : item b t s ts = .ok ⟨(a, true), rest, h₁⟩)
    (hrest : repeatWhile more item s rest = .ok ⟨as, rest', h₂⟩) :
    ∃ h, repeatWhile more item s (t :: ts) = .ok ⟨a :: as, rest', h⟩ := by
  rw [repeatWhile.eq_def, hmore]
  simp only [hitem, hrest]
  exact ⟨(h₂.trans h₁).trans (List.suffix_cons t ts), trivial⟩

lemma run_repeatWhile_error {α β : Type} {more : Parser (Option β)}
    {item : β → Token → Parser (α × Bool)} {b : β} {error : SyntaxError} {h₀}
    (hmore : more s (t :: ts) = .ok ⟨some b, t :: ts, h₀⟩) (hitem : item b t s ts = .error error) :
    repeatWhile more item s (t :: ts) = .error error := by
  rw [repeatWhile.eq_def, hmore]
  simp only [hitem]

/-- A text of one item that begins with `t` is parsed like that item. -/
lemma run_template (ts : List Token) (hs : s.fault = none) (ht : t.kind = .printStart) :
    (∀ node h, printed t s ts = .ok ⟨(node, true), [], h⟩ →
      (template s (t :: ts)).map (·.value) = .ok [node]) ∧
    ∀ error, printed t s ts = .error error →
      (template s (t :: ts)).map (·.value) = .error error := by
  obtain ⟨d, fault, stop⟩ := s
  obtain ⟨kind, lexeme, offset, pos⟩ := t
  subst hs ht
  constructor
  · intro node h hitem
    have hend : ∀ item : Unit → Token → Parser (Node × Bool),
        repeatWhile nodeAhead item ⟨d, none, stop⟩ [] = .ok ⟨[], [], List.suffix_rfl⟩ := by
      intro item
      rw [repeatWhile.eq_def]
      rfl
    have hnodes : ∃ h, parser maxNesting ⟨d, none, stop⟩ (⟨.printStart, lexeme, offset, pos⟩ :: ts)
        = .ok ⟨[node], [], h⟩ :=
      run_repeatWhile rfl hitem (hend _)
    obtain ⟨h, hnodes⟩ := hnodes
    simp only [template, Bind.bind, hnodes]
    rfl
  · intro error hitem
    have hnodes : parser maxNesting ⟨d, none, stop⟩ (⟨.printStart, lexeme, offset, pos⟩ :: ts)
        = .error error :=
      run_repeatWhile_error rfl hitem
    simp only [template, Bind.bind, hnodes]
    rfl

/-- An expression is read back from its tokens as it was, or is nested too deeply, which none of at
most twenty nodes is. -/
theorem ofTokens_interpolation (e : Expr) (s : TokenStream) (hs : s.fault = none)
    (hfits : List.Forall₂ Fits s.tokens (interpolation e)) :
    (∃ pos ∈ s.tokens.head?.map Token.pos, ofTokens s = .ok [.print e pos]) ∨
      20 < e.size ∧ ∃ pos, ofTokens s = .error (.parse (.tooDeep maxNesting pos)) := by
  obtain ⟨d, tokens, fault, stop⟩ := s
  cases hfits with
  | @cons start _ content _ hstart hcontent =>
  obtain ⟨hok, herror⟩ := run_template (s := ⟨d, fault, stop⟩) content hs hstart.1
  rcases takes_printed (t := start) (s := ⟨d, fault, stop⟩) hs hcontent with
    ⟨⟨r, rest, h⟩, hr, rfl, hrest⟩ | ⟨hsize, pos, hr⟩
  · cases hrest
    exact .inl ⟨start.pos, rfl, hok _ h hr⟩
  · have : ¬3 * e.size ≤ 65 := hsize
    exact .inr ⟨by omega, pos, herror _ hr⟩

/-- A filter below a sign, a call below two operators, a test below another, and conditionals with
and without an alternative. -/
def sample : Expr :=
  .choice
    (.binary .sub (.unary .neg (.filter (.var "x") "abs" []))
      (.binary .add (.callMember (.var "a") "b c" [.int 1]) (.int 2)))
    (.unary .not (.test (.var "z") "none" [] true))
    (some (.item (.var "k") (.choice (.var "m") (.lit (.bool true)) none)))

/-- The sample as the scanner reads it. -/
def sampleTokens : TokenStream :=
  .ofText .jinja
    (Token.Jinja.TagKind.print.around
      " -x|abs - (a['b c'](1) + 2) if not (z is not none) else k[m if true] ").toList

theorem ofTokens_interpolation_sample :
    sampleTokens.fault = none ∧ List.Forall₂ Fits sampleTokens.tokens (interpolation sample) ∧
      ∃ pos, ofTokens sampleTokens = .ok [.print sample pos] := by
  have hfault : sampleTokens.fault = none := by cbv
  have hfits : List.Forall₂ Fits sampleTokens.tokens (interpolation sample) := by
    have htokens : sampleTokens.tokens = sampleTokens.tokens := rfl
    have hshapes : interpolation sample = interpolation sample := rfl
    conv at htokens => rhs; cbv
    conv at hshapes => rhs; cbv
    rw [htokens, hshapes]
    simp [Fits]
    constructor <;> rfl
  refine ⟨hfault, hfits, ?_⟩
  rcases ofTokens_interpolation sample sampleTokens hfault hfits with ⟨pos, -, hok⟩ | ⟨hsize, -⟩
  · exact ⟨pos, hok⟩
  · exact absurd hsize (by decide)

end Node

end Stencil
