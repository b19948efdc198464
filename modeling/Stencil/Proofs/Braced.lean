import Stencil.Proofs.Coverage
import Stencil.Proofs.Names

/-! Values in braces: their tokens one after the other, whatever blanks stand between them. -/
namespace Stencil

lemma Cursor.blanks_of_isBlank {c : Cursor} {gap more : List Char} {ch : Char}
    (h : c.rest = gap ++ ch :: more) (hgap : IsBlank gap) (hch : Unicode.isWhitespace ch = false) :
    c.blanks true = gap.length := by
  unfold blanks
  rw [h, Token.takeWhile_run]
  · intro b hb
    rw [hgap b hb, Bool.true_and, Bool.or_true]
  · rw [isLineBlank_of_not_isWhitespace hch, hch]
    rfl

namespace Token.Native

/-- In front of `more` the text is tokens of these kinds, each behind some blanks. They lead from
one depth of brackets to another, and no brace closes outside of brackets. -/
inductive Inside (more : List Char) : (depth : Nat) → List Char → List Kind → Nat → Prop where
  | nil {depth : Nat} : Inside more depth [] [] depth
  | token {depth last : Nat} (gap word : List Char) {text : List Char} {ch : Char} {kind : Kind}
    {kinds : List Kind} :
    IsBlank gap → scan ch (word ++ (text ++ more)) = .ok (kind, word.length) →
    (depth = 0 → ch ≠ '}') → Inside more (kind.depthAfter depth) text kinds last →
    Inside more depth (gap ++ ch :: (word ++ text)) (kind :: kinds) last

variable {depth mid last n : Nat} {gap text behind more : List Char} {ch : Char} {kind : Kind}
  {kinds kinds' : List Kind} {name : String}

lemma Inside.append (h : Inside (behind ++ more) depth text kinds mid)
    (hbehind : Inside more mid behind kinds' last) :
    Inside more depth (text ++ behind) (kinds ++ kinds') last := by
  induction h with
  | nil => exact hbehind
  | @token depth last gap word text ch kind kinds hgap hscan hopen _ ih =>
    rw [← List.append_assoc text] at hscan
    rw [List.append_assoc, List.cons_append, List.append_assoc]
    exact .token gap word hgap hscan hopen (ih hbehind)

lemma Inside.sign (hgap : IsBlank gap) (hscan : scan ch more = .ok (kind, 0))
    (hopen : depth = 0 → ch ≠ '}') :
    Inside more depth (gap ++ [ch]) [kind] (kind.depthAfter depth) :=
  .token gap [] hgap hscan hopen .nil

/-- A name is one token. -/
lemma Inside.word (hname : isName name = true) (hgap : IsBlank gap) (hmore : Breaks more) :
    Inside more depth (gap ++ name.toList) [.ident name] depth := by
  obtain ⟨first, others, hspelled, hstart, hothers, hword⟩ := exists_of_isName hname
  have hscan : scan first (others ++ ([] ++ more)) = .ok (.ident name, others.length) := by
    rw [List.nil_append, scan_word hstart hothers hmore, hword]
  have hbrace : first ≠ '}' := ne_of_isIdentStart hstart (by decide)
  have htoken : Inside more depth (gap ++ first :: (others ++ [])) [.ident name] depth :=
    .token gap others hgap hscan (fun _ => hbrace) .nil
  rwa [List.append_nil, ← hspelled] at htoken

lemma bracedTokens_end {c : Cursor} (h : c.rest = gap ++ '}' :: more) (hgap : IsBlank gap)
    (opened : Position) :
    bracedTokens opened 0 c =
      .ok ([(c.advance gap.length).token .printEnd 1], gap.length + 1) := by
  have hblanks := Cursor.blanks_of_isBlank h hgap (by decide)
  have hrest : (c.advance gap.length).rest = '}' :: more := Cursor.rest_advance_of h
  rw [bracedTokens.eq_def]
  simp only [hblanks, hrest]
  rw [if_pos ⟨trivial, trivial⟩]

lemma bracedTokens_token {c : Cursor} {opened : Position} {m : Nat} {tokens : List Token}
    (h : c.rest = gap ++ ch :: more) (hgap : IsBlank gap) (hscan : scan ch more = .ok (kind, n))
    (hopen : depth = 0 → ch ≠ '}')
    (hmore : bracedTokens opened (kind.depthAfter depth)
      ((c.advance gap.length).advance (n + 1)) = .ok (tokens, m)) :
    bracedTokens opened depth c =
      .ok ((c.advance gap.length).token kind (n + 1) :: tokens, gap.length + (n + 1) + m) := by
  have hblanks := Cursor.blanks_of_isBlank h hgap (isWhitespace_of_scan hscan)
  obtain ⟨hrest, hnext, hlength⟩ := scanAt_behind h hblanks hscan
  rw [← hblanks] at hmore ⊢
  rw [bracedTokens.eq_def]
  simp only [hrest]
  rw [if_neg fun hend => hopen hend.1 hend.2]
  split
  · rename_i hat
    cases hat.symm.trans hnext
  · rename_i hat
    cases hat.symm.trans hnext
    simp only [hlength, hmore]

/-- What stands inside braces is read up to the brace that closes. -/
theorem bracedTokens_of_inside {c : Cursor} (h : Inside (gap ++ '}' :: more) depth text kinds 0)
    (hgap : IsBlank gap) (hrest : c.rest = text ++ (gap ++ '}' :: more)) (opened : Position) :
    ∃ tokens, bracedTokens opened depth c = .ok (tokens, text.length + gap.length + 1) ∧
      tokens.map Token.kind = kinds ++ [.printEnd] := by
  generalize hlast : 0 = last at h
  induction h generalizing c with
  | nil =>
    subst hlast
    rw [List.length_nil, Nat.zero_add]
    exact ⟨_, bracedTokens_end hrest hgap opened, rfl⟩
  | @token depth last before word text ch kind kinds hbefore hscan hopen _ ih =>
    rw [List.append_assoc, List.cons_append, List.append_assoc] at hrest
    have hword : (c.advance before.length).rest =
        (ch :: word) ++ (text ++ (gap ++ '}' :: more)) := Cursor.rest_advance_of hrest
    obtain ⟨tokens, hmore, hkinds⟩ := ih (Cursor.rest_advance_of hword) hlast
    have htokens := bracedTokens_token hrest hbefore hscan hopen hmore
    rw [Nat.add_assoc text.length, ← Nat.add_assoc _ text.length, ← length_spaced] at htokens
    exact ⟨_, htokens, congrArg (kind :: ·) hkinds⟩

/-- The construct stands inside its line: tokens of these kinds, in `n` characters. -/
structure Construct.IsInline (found : Construct) (kinds : List Kind) (n : Nat) : Prop where
  kinds : found.tokens.map Token.kind = kinds
  length : found.length = n
  ownsIndent : found.ownsIndent = false

lemma construct_of_inside {c : Cursor} (h : Inside (gap ++ '}' :: more) 0 text kinds 0)
    (hgap : IsBlank gap)
    (hrest : c.rest = '$' :: '{' :: (text ++ (gap ++ '}' :: more))) :
    ∃ found, construct c .braced = .ok found ∧
      found.IsInline (.printStart :: (kinds ++ [.printEnd])) (text.length + gap.length + 3) := by
  have hbehind : (c.advance 2).rest = text ++ (gap ++ '}' :: more) := by
    rw [Cursor.rest_advance, hrest]
    rfl
  obtain ⟨tokens, htokens, hkinds⟩ := bracedTokens_of_inside h hgap hbehind c.pos
  unfold construct
  simp only [htokens]
  exact ⟨_, rfl, congrArg (Kind.printStart :: ·) hkinds, Nat.add_comm _ _, rfl⟩

lemma marker?_braced {c : Cursor} (h : c.rest = '$' :: '{' :: more) :
    marker? c = some .braced := by
  unfold marker?
  rw [h]
  rfl

end Token.Native

end Stencil
