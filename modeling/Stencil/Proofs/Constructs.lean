import Stencil.Proofs.JinjaCoverage

/-! The constructs of a jinja text, found without regard to the blanks that they remove, and the
tokens of a text from which each of them removes its share. -/
namespace Stencil

/-- The characters from one place to a later one. -/
def Cursor.upTo (c stop : Cursor) : List Char := c.rest.take (c.rest.length - stop.rest.length)

namespace Token.Jinja

/-- What a construct removes of the text on one side of it. -/
inductive Trim where
  | nothing
  /-- The blanks on its line, behind it with the end of the line. -/
  | line
  | blanks
deriving DecidableEq

namespace Trim

/-- A hyphen removes all blanks, a construct alone on its line those on the line. -/
def of (hyphen alone : Bool) : Trim :=
  if hyphen then .blanks else if alone then .line else .nothing

/-- The place behind what is removed of the text ahead. -/
def past : Trim → Cursor → Cursor
  | .nothing, c => c
  | .line, c => c.advance (c.lineEnd?.getD 0)
  | .blanks, c => c.advance (c.rest.takeWhile Unicode.isWhitespace).length

/-- What is left of the text before a construct. -/
def leave : Trim → List Char → List Char
  | .nothing, text => text
  | .line, text => Text.dropEndWhile Cursor.isIndent text
  | .blanks, text => Text.trimEnd text

end Trim

/-- An interpolation, a block tag, a comment or one of the two tags around a raw body. -/
structure Construct where
  opener : Cursor
  /-- The place behind it. -/
  closer : Cursor
  tokens : List Token
  before : Trim
  behind : Trim
  opensRaw : Bool

namespace Construct

/-- Whether a text ends in the closer of the kind with a hyphen. -/
def hyphenCloses (kind : TagKind) (text : List Char) : Bool :=
  ('-' :: kind.closer.toList).isSuffixOf text

/-- If what stands between two places is alone on its line: the number of characters from its end
to the next line. An interpolation never counts as alone. -/
def alone? (kind : TagKind) (opener closer : Cursor) : Option Nat :=
  if kind = .print then none else opener.standsAlone closer

/-- A construct of a kind between two places; `last` is what its closing delimiter stands in. -/
def between (kind : TagKind) (opener closer : Cursor) (tokens : List Token) (last : List Char) :
    Construct :=
  let alone := (alone? kind opener closer).isSome
  { opener, closer, tokens
    before := .of ((opener.rest.drop 2).head? = some '-') alone
    behind := .of (hyphenCloses kind last) alone
    opensRaw := isRawTag kind tokens }

/-- The last token of a tag is its closing delimiter, that of a comment the comment. -/
def ofStep (kind : TagKind) (opener : Cursor) (found : Step) : Construct :=
  between kind opener (opener.advance found.length) found.tokens
    ((found.tokens.getLast?.map fun t => t.lexeme.toList).getD [])

/-- The tag that ends a raw body. -/
def ofRawEnd (opener : Cursor) (stop : RawEnd) : Construct :=
  let closer := opener.advance stop.length
  between .block opener closer
    [opener.token .directiveStart 2, (opener.advance stop.lead).token (.ident "endraw") 6,
      (opener.advance (stop.length - 2)).token .directiveEnd 2]
    (opener.upTo closer)

end Construct

/-- The constructs behind a place. -/
def constructs (c : Cursor) : Except LexError (List Construct) :=
  match _ : splitAtTag c.rest with
  | none => .ok []
  | some (text, kind) =>
    let opener := c.advance text.length
    match construct kind opener with
    | .error e => .error e
    | .ok found =>
      let here := Construct.ofStep kind opener found
      if here.opensRaw then
        match splitAtRawEnd here.closer.rest with
        | none => .error (.unterminatedBlock "raw" "{% endraw %}" opener.pos)
        | some (body, stop) =>
          let last := Construct.ofRawEnd (here.closer.advance body.length) stop
          (constructs last.closer).map (here :: last :: ·)
      else (constructs here.closer).map (here :: ·)
termination_by c.rest.length
decreasing_by
  all_goals
    have := found.length_pos
    have := (splitAtTag_spec ‹splitAtTag c.rest = _›).2
    simp only [Construct.ofRawEnd, Construct.ofStep, Construct.between, Cursor.rest_advance,
      List.length_drop]
    omega

/-- The tokens behind a place: the text before the next construct, its tokens and so on. -/
def laid (c : Cursor) : List Construct → List Token
  | [] => c.textToken c.rest c.rest.length
  | next :: more =>
    let text := c.upTo next.opener
    c.textToken (next.before.leave text) text.length ++ next.tokens ++
      laid (next.behind.past next.closer) more

/-- The hyphen that closes the tag before a raw body removes nothing from the body, and the blanks
behind the tag that ends it. -/
def carried : List Construct → List Construct
  | start :: stop :: more =>
    if start.opensRaw ∧ start.behind = .blanks then
      { start with behind := .nothing } :: { stop with behind := .blanks } :: carried more
    else start :: carried (stop :: more)
  | cs => cs

/-! ### Hyphens -/

variable {c : Cursor} {ts : List Token} {n : Nat} {kind : TagKind} {strip : Bool}
  {text gap more : List Char}

lemma hyphenCloses_append (kind : TagKind) (text : List Char) :
    Construct.hyphenCloses kind (text ++ kind.closer.toList) =
      decide (text.getLast? = some '-') := by
  unfold Construct.hyphenCloses
  rw [Bool.eq_iff_iff, List.isSuffixOf_iff_suffix, decide_eq_true_iff,
    ← List.singleton_suffix_iff_getLast?_eq_some, ← List.singleton_append]
  exact List.suffix_append_self_iff

lemma hyphenCloses_hyphenIf (kind : TagKind) (strip : Bool) :
    Construct.hyphenCloses kind (hyphenIf strip ++ kind.closer.toList) = strip := by
  cases kind <;> cases strip <;> rfl

/-- The last token of a tag is its closer. -/
lemma getLast?_tagTokens {opened : Position} {depth : Nat}
    (h : tagTokens kind opened depth c = .ok (ts, n, strip)) :
    ∃ t, ts.getLast? = some t ∧ t.lexeme.toList = hyphenIf strip ++ kind.closer.toList := by
  fun_induction tagTokens kind opened depth c generalizing ts n strip with
  | case1 => cases h
  | case2 =>
    rename_i ch rest hrest m strip' hcloser
    cases h
    split at hcloser
    · obtain ⟨more, hmore, hn⟩ := closerAhead?_spec hcloser
      refine ⟨_, rfl, ?_⟩
      change (String.ofList _).toList = _
      rw [String.toList_ofList, hrest, hmore, hn, ← length_closer kind, ← List.length_append,
        List.take_left]
    · cases hcloser
  | case3 => cases h
  | case4 => cases h
  | case5 =>
    rename_i hrest _ kind' m hscan _ tokens k strip' hmore ih
    cases h
    obtain ⟨t, ht, hlexeme⟩ := ih hmore
    refine ⟨t, ?_, hlexeme⟩
    rw [List.getLast?_cons, ht]
    rfl

/-- What the last token of a construct ends in. -/
lemma hyphenCloses_tag {s : Step} (h : tag kind c = .ok s) :
    Construct.hyphenCloses kind ((s.tokens.getLast?.map fun t => t.lexeme.toList).getD []) =
      s.strip := by
  unfold tag at h
  dsimp only at h
  split at h
  · cases h
  · rename_i tokens m strip htokens
    cases h
    obtain ⟨t, ht, hlexeme⟩ := getLast?_tagTokens htokens
    rw [List.getLast?_cons, ht]
    change Construct.hyphenCloses kind t.lexeme.toList = strip
    rw [hlexeme, hyphenCloses_hyphenIf]

lemma hyphenCloses_comment {s : Step} (hc : c.rest.take 2 = TagKind.comment.opener.toList)
    (h : comment c = .ok s) :
    Construct.hyphenCloses .comment ((s.tokens.getLast?.map fun t => t.lexeme.toList).getD []) =
      s.strip := by
  unfold comment at h
  split at h
  · cases h
  · rename_i body rest hsplit
    cases h
    obtain ⟨more, hmore⟩ := List.isPrefixOf_iff_prefix.mp (Text.isPrefixOf_of_splitAt? hsplit)
    have hrest : c.rest =
        (TagKind.comment.opener.toList ++ body ++ TagKind.comment.closer.toList) ++ more := by
      rw [← List.take_append_drop 2 c.rest, hc, ← Text.append_of_splitAt? hsplit, ← hmore]
      simp only [List.append_assoc]
    have hlexeme : c.rest.take (body.length + 4) =
        TagKind.comment.opener.toList ++ body ++ TagKind.comment.closer.toList := by
      rw [hrest, List.take_left']
      rw [List.length_append, List.length_append, length_closer]
      change 2 + _ + 2 = _
      omega
    change Construct.hyphenCloses .comment (String.ofList (c.rest.take _)).toList = _
    rw [String.toList_ofList, hlexeme, hyphenCloses_append]
    cases body with
    | nil => rfl
    | cons ch body =>
      rw [List.getLast?_append, List.getLast?_cons]
      rfl

lemma hyphenCloses_construct {s : Step} (hc : c.rest.take 2 = kind.opener.toList)
    (h : construct kind c = .ok s) :
    Construct.hyphenCloses kind ((s.tokens.getLast?.map fun t => t.lexeme.toList).getD []) =
      s.strip := by
  cases kind with
  | comment => exact hyphenCloses_comment hc h
  | print => exact hyphenCloses_tag h
  | block => exact hyphenCloses_tag h

/-- A hyphen is the last sign before the closer only if it belongs to it. -/
lemma getLast?_back {back : List Char} (hback : IsBlank back) (text : List Char) :
    decide ((text ++ "endraw".toList ++ back ++ hyphenIf strip).getLast? = some '-') = strip := by
  cases strip with
  | true =>
    rw [List.getLast?_append]
    rfl
  | false =>
    rw [hyphenIf, if_neg Bool.false_ne_true, List.append_nil, List.getLast?_append,
      decide_eq_false_iff_not]
    cases hlast : back.getLast? with
    | none =>
      rw [Option.none_or, List.getLast?_append]
      change ¬some 'w' = some '-'
      decide
    | some ch =>
      intro hch
      cases hch
      exact absurd (hback _ (List.mem_of_getLast? hlast)) (by decide)

lemma hyphenCloses_rawEnd {stop : RawEnd} (h : rawEnd? text = some stop) :
    Construct.hyphenCloses .block (text.take stop.length) = stop.stripAfter := by
  obtain ⟨front, back, more, hends⟩ := exists_endsRaw h
  have hlead := hends.lead_eq
  have hlength := hends.length_eq
  have htake : text.take stop.length = (text.take 2 ++ hyphenIf stop.stripBefore ++ front ++
      "endraw".toList ++ back ++ hyphenIf stop.stripAfter) ++ TagKind.block.closer.toList := by
    rw [show stop.length = 2 + (stop.length - 2) by omega, List.take_add, hends.split]
    simp only [← List.append_assoc]
    rw [List.take_left']
    · simp only [List.append_assoc]
    · simp only [List.length_append, length_closer]
      change _ + _ + 6 + _ + _ + _ = _
      omega
  rw [htake, hyphenCloses_append, getLast?_back hends.isBlank_back]

/-! ### Blanks ahead -/

lemma ne_brace_of_isWhitespace {ch : Char} (h : Unicode.isWhitespace ch = true) : ch ≠ '{' := by
  rintro rfl
  exact absurd h (by decide)

lemma splitAtTag_blank_append (hgap : IsBlank gap) :
    splitAtTag (gap ++ text) = (splitAtTag text).map fun r => (gap ++ r.1, r.2) := by
  induction gap with
  | nil => simp
  | cons ch gap ih =>
    have hch := ne_brace_of_isWhitespace (hgap ch List.mem_cons_self)
    rw [List.cons_append, splitAtTag, if_neg hch, ih fun b hb => hgap b (List.mem_cons_of_mem _ hb),
      Option.map_map]
    rfl

lemma rawEnd?_cons {ch : Char} (hch : ch ≠ '{') : rawEnd? (ch :: text) = none := by
  unfold rawEnd?
  dsimp only
  rw [if_neg]
  intro h
  have hopener := List.isPrefixOf_iff_prefix.mp (Bool.and_eq_true _ _ ▸ h).1
  exact hch (List.cons_prefix_cons.mp hopener).1.symm

lemma splitAtRawEnd_blank_append (hgap : IsBlank gap) :
    splitAtRawEnd (gap ++ text) = (splitAtRawEnd text).map fun r => (gap ++ r.1, r.2) := by
  induction gap with
  | nil => simp
  | cons ch gap ih =>
    have hch := ne_brace_of_isWhitespace (hgap ch List.mem_cons_self)
    rw [List.cons_append, splitAtRawEnd, rawEnd?_cons hch,
      ih fun b hb => hgap b (List.mem_cons_of_mem _ hb)]
    dsimp only
    rw [Option.map_map]
    rfl

lemma constructs_of_none (htag : splitAtTag c.rest = none) : constructs c = .ok [] := by
  unfold constructs
  split
  · rfl
  · rename_i hsome
    rw [htag] at hsome
    cases hsome

lemma constructs_of_some (htag : splitAtTag c.rest = some (text, kind)) :
    constructs c = match construct kind (c.advance text.length) with
      | .error e => .error e
      | .ok found =>
        let here := Construct.ofStep kind (c.advance text.length) found
        if here.opensRaw then
          match splitAtRawEnd here.closer.rest with
          | none =>
            .error (.unterminatedBlock "raw" "{% endraw %}" (c.advance text.length).pos)
          | some (body, stop) =>
            let last := Construct.ofRawEnd (here.closer.advance body.length) stop
            (constructs last.closer).map (here :: last :: ·)
        else (constructs here.closer).map (here :: ·) := by
  rw [constructs.eq_def c]
  split
  · rename_i hnone
    rw [htag] at hnone
    cases hnone
  · rename_i hsome
    rw [htag] at hsome
    cases hsome
    rfl

section

variable {found : Step} {opener closer : Cursor} (htag : splitAtTag c.rest = some (text, kind))
  (hopener : c.advance text.length = opener) (hfound : construct kind opener = .ok found)
  (hcloser : opener.advance found.length = closer)

include htag hopener hfound hcloser

lemma constructs_of_tag (hraw : ¬isRawTag kind found.tokens) :
    constructs c = (constructs closer).map (Construct.ofStep kind opener found :: ·) := by
  subst hopener hcloser
  rw [constructs_of_some htag, hfound]
  exact if_neg hraw

lemma constructs_of_raw (hraw : isRawTag kind found.tokens) :
    constructs c = match splitAtRawEnd closer.rest with
      | none => .error (.unterminatedBlock "raw" "{% endraw %}" opener.pos)
      | some (body, stop) =>
        let last := Construct.ofRawEnd (closer.advance body.length) stop
        (constructs last.closer).map (Construct.ofStep kind opener found :: last :: ·) := by
  subst hopener hcloser
  rw [constructs_of_some htag, hfound]
  exact if_pos hraw

end

lemma constructs_advance (h : c.rest = gap ++ more) (hgap : IsBlank gap) :
    constructs (c.advance gap.length) = constructs c := by
  have htags : splitAtTag c.rest =
      (splitAtTag (c.advance gap.length).rest).map fun r => (gap ++ r.1, r.2) := by
    rw [Cursor.rest_advance_of h, h, splitAtTag_blank_append hgap]
  cases htag : splitAtTag (c.advance gap.length).rest with
  | none =>
    rw [htag] at htags
    rw [constructs_of_none htag, constructs_of_none htags]
  | some r =>
    rw [htag] at htags
    rw [constructs_of_some htag, constructs_of_some htags, List.length_append, Cursor.advance_add]

end Token.Jinja

end Stencil
