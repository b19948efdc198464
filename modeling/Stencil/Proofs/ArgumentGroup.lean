import Stencil.Proofs.Braced

/-! Arguments in parentheses. They are the same tokens behind a shorthand and in braces, whatever
stands behind them. -/
namespace Stencil.Token

/-- Behind `depth` brackets that are open the text is tokens of these kinds, with blanks between
them, and its last parenthesis is the first bracket that leaves none open. -/
inductive Closed : (depth : Nat) → List Char → List Kind → Prop where
  | last (gap : List Char) : IsBlank gap → Closed 1 (gap ++ [')']) [.symbol .closeParen]
  | token {depth : Nat} (gap word : List Char) {more : List Char} {ch : Char} {kind : Kind}
    {kinds : List Kind} :
    IsBlank gap → scan ch (word ++ more) = .ok (kind, word.length) → 0 < kind.depthAfter depth →
    Closed (kind.depthAfter depth) more kinds →
    Closed depth (gap ++ ch :: (word ++ more)) (kind :: kinds)

/-- Arguments in parentheses: the text behind the opening one, and the kinds of its tokens. -/
structure Arguments where
  text : List Char
  kinds : List Kind
  closed : Closed 1 text kinds

variable {depth : Nat} {c : Cursor} {gap word text more : List Char} {ch : Char} {kind : Kind}
  {kinds : List Kind}

lemma Closed.exists_last (h : Closed depth text kinds) : ∃ inner, text = inner ++ [')'] := by
  induction h with
  | @last gap hgap => exact ⟨gap, rfl⟩
  | @token depth gap word more ch kind kinds hgap hscan hdepth hmore ih =>
    obtain ⟨inner, rfl⟩ := ih
    exact ⟨gap ++ ch :: (word ++ inner), by simp⟩

/-- A token of arguments is the same token whatever stands behind the arguments. -/
lemma Closed.scan_append (h : Closed depth text kinds)
    (hscan : scan ch (word ++ text) = .ok (kind, word.length)) (more : List Char) :
    scan ch (word ++ (text ++ more)) = .ok (kind, word.length) := by
  obtain ⟨inner, rfl⟩ := h.exists_last
  rw [← List.append_assoc] at hscan
  have hlonger := scan_append_behind hscan rfl more
  simpa using hlonger

lemma scan_closeParen (more : List Char) : scan ')' more = .ok (.symbol .closeParen, 0) := by
  cases more <;> rfl

lemma scan_openParen (more : List Char) : scan '(' more = .ok (.symbol .openParen, 0) := by
  cases more <;> rfl

/-! ### Behind a shorthand -/

/-- The bracket that leaves none open ends the group. -/
lemma scanGroup_end (h : c.rest = gap ++ ')' :: more) (hgap : IsBlank gap) (unclosed : LexError) :
    scanGroup unclosed 1 c =
      .ok ([(c.advance gap.length).token (.symbol .closeParen) 1], gap.length + 1) := by
  have hblanks := Cursor.blanks_of_isBlank h hgap (by decide)
  obtain ⟨hrest, hnext, hlength⟩ := scanAt_behind h hblanks (scan_closeParen more)
  rw [← hblanks, scanGroup.eq_def]
  simp only [hrest]
  split
  · rename_i hat
    cases hat.symm.trans hnext
  · rename_i hat
    cases hat.symm.trans hnext
    simp only [hlength]
    rfl

lemma scanGroup_token {unclosed : LexError} {n m : Nat} {tokens : List Token}
    (h : c.rest = gap ++ ch :: more) (hgap : IsBlank gap) (hscan : scan ch more = .ok (kind, n))
    (hdepth : 0 < kind.depthAfter depth)
    (hmore : scanGroup unclosed (kind.depthAfter depth)
      ((c.advance gap.length).advance (n + 1)) = .ok (tokens, m)) :
    scanGroup unclosed depth c =
      .ok ((c.advance gap.length).token kind (n + 1) :: tokens, gap.length + (n + 1) + m) := by
  have hblanks := Cursor.blanks_of_isBlank h hgap (isWhitespace_of_scan hscan)
  obtain ⟨hrest, hnext, hlength⟩ := scanAt_behind h hblanks hscan
  have hopen : (kind.depthAfter depth == 0) = false := beq_eq_false_iff_ne.mpr hdepth.ne'
  rw [← hblanks] at hmore ⊢
  rw [scanGroup.eq_def]
  simp only [hrest]
  split
  · rename_i hat
    cases hat.symm.trans hnext
  · rename_i hat
    cases hat.symm.trans hnext
    simp only [hlength, hopen, hmore]
    split <;> rw [if_neg Bool.false_ne_true]

/-- The scanner of groups reads up to the bracket that leaves none open. -/
theorem scanGroup_of_closed (h : Closed depth text kinds) (hrest : c.rest = text ++ more)
    (unclosed : LexError) :
    ∃ tokens, scanGroup unclosed depth c = .ok (tokens, text.length) ∧
      tokens.map Token.kind = kinds := by
  induction h generalizing c with
  | last gap hgap =>
    rw [List.append_assoc] at hrest
    rw [List.length_append]
    exact ⟨_, scanGroup_end hrest hgap unclosed, rfl⟩
  | @token depth gap word text ch kind kinds hgap hscan hdepth htext ih =>
    have hscan := htext.scan_append hscan more
    rw [List.append_assoc, List.cons_append, List.append_assoc] at hrest
    have hword : (c.advance gap.length).rest = (ch :: word) ++ (text ++ more) :=
      Cursor.rest_advance_of hrest
    obtain ⟨tokens, hmore, hkinds⟩ := ih (Cursor.rest_advance_of hword)
    have htokens := scanGroup_token hrest hgap hscan hdepth hmore
    rw [← length_spaced] at htokens
    exact ⟨_, htokens, congrArg (kind :: ·) hkinds⟩

/-! ### In braces -/

open Native

lemma Closed.inside (h : Closed depth text kinds) (hdepth : 0 < depth) :
    Inside more depth text kinds 0 := by
  induction h with
  | last gap hgap => exact .sign hgap (scan_closeParen more) nofun
  | token gap word hgap hscan hopen hrest ih =>
    exact .token gap word hgap (hrest.scan_append hscan more) (fun hzero => by omega) (ih hopen)

/-! ### Arguments that may be missing -/

/-- How arguments are written, if there are any. -/
def Arguments.spelled : Option Arguments → List Char
  | none => []
  | some args => '(' :: args.text

def Arguments.spelledKinds : Option Arguments → List Kind
  | none => []
  | some args => .symbol .openParen :: args.kinds

lemma Arguments.closed_spelled (args : Arguments) :
    Closed 0 (spelled args) (spelledKinds args) :=
  .token [] [] isBlank_nil (scan_openParen _) Nat.one_pos args.closed

lemma Arguments.inside (args : Option Arguments) :
    Inside more 0 (spelled args) (spelledKinds args) 0 := by
  cases args with
  | none => exact .nil
  | some args =>
    have hopen : Inside (args.text ++ more) 0 ([] ++ ['(']) [.symbol .openParen] 1 :=
      .sign isBlank_nil (scan_openParen _) (by decide)
    exact hopen.append (args.closed.inside Nat.one_pos)

end Stencil.Token
