import Stencil.Proofs.SegmentOutput
import Stencil.Proofs.WhitespaceControl

/-! Raw bodies are rendered as they stand. In the jinja dialect a body ends at the first tag that
says so, in the native dialect at the first word; what only resembles the one or the other, also
where it abuts the real end, is part of the body. -/
namespace Stencil

namespace Segment

/-- The kinds of the tokens of the directive that ends a raw body. -/
def endKinds (d : Dialect) : List Token.Kind :=
  [.directiveStart, .ident (Node.closer d "raw"), .directiveEnd]

/-- The kinds of the tokens of a raw body with its directives. -/
def rawKinds (d : Dialect) (body : List Char) : List Token.Kind :=
  .directiveStart :: .ident "raw" :: .directiveEnd :: ((ofText body).flatMap kinds ++ endKinds d)

end Segment

/-! ### The end of a body in the jinja dialect -/

namespace Token.Jinja

variable {text body more : List Char} {stop : RawEnd}

/-- A tag that ends a raw body: its name between blanks, with or without hyphens at the outside. -/
def IsRawEnd (tag : List Char) : Prop :=
  ∃ before after front back, IsBlank front ∧ IsBlank back ∧
    tag = TagKind.block.opener.toList ++ (hyphenIf before ++ (front ++ ("endraw".toList ++
      (back ++ (hyphenIf after ++ TagKind.block.closer.toList)))))

/-- What is found to end a body is such a tag. -/
lemma exists_isRawEnd (h : rawEnd? text = some stop) :
    ∃ tag more, IsRawEnd tag ∧ text = tag ++ more := by
  have hopener : TagKind.block.opener.toList <+: text := by
    by_contra hnone
    rw [← List.isPrefixOf_iff_prefix, Bool.not_eq_true] at hnone
    simp [rawEnd?, hnone] at h
  obtain ⟨rest, rfl⟩ := hopener
  obtain ⟨front, back, more, hends⟩ := exists_endsRaw h
  refine ⟨_, more, ⟨stop.stripBefore, stop.stripAfter, front, back, hends.isBlank_front,
    hends.isBlank_back, rfl⟩, ?_⟩
  have hrest : rest = _ := hends.split
  rw [hrest]
  simp only [List.append_assoc]

/-- Such a tag has one opening brace, at its front. -/
lemma IsRawEnd.brace {tag : List Char} (h : IsRawEnd tag) :
    ∃ rest, tag = '{' :: rest ∧ '{' ∉ rest := by
  obtain ⟨before, after, front, back, hfront, hback, rfl⟩ := h
  refine ⟨'%' :: (hyphenIf before ++ (front ++ ("endraw".toList ++ (back ++ (hyphenIf after ++
    ['%', '}']))))), rfl, ?_⟩
  have hblank : ∀ gap : List Char, IsBlank gap → '{' ∉ gap := by
    intro gap hgap hmem
    exact absurd (hgap _ hmem) (by decide)
  have hhyphen : ∀ strip, '{' ∉ hyphenIf strip := by decide
  simp [hblank front hfront, hblank back hback, hhyphen]

/-- A body without such a tag ends where the first one stands behind it: no tag begins in the body
and ends behind it, since a brace would stand inside the tag. -/
lemma splitAtRawEnd_append (hbody : ∀ tag, IsRawEnd tag → ¬ tag <:+: body)
    (hmore : rawEnd? ('{' :: more) = some stop) :
    splitAtRawEnd (body ++ '{' :: more) = some (body, stop) := by
  induction body with
  | nil => rw [List.nil_append, splitAtRawEnd, hmore]
  | cons ch body ih =>
    have hfront : rawEnd? (ch :: body ++ '{' :: more) = none := by
      cases hfound : rawEnd? (ch :: body ++ '{' :: more) with
      | none => rfl
      | some found =>
        obtain ⟨tag, behind, htag, heq⟩ := exists_isRawEnd hfound
        obtain ⟨inside, hbrace, hinside⟩ := htag.brace
        rcases List.append_eq_append_iff.mp heq with ⟨ahead, rfl, hahead⟩ | ⟨left, hleft, -⟩
        · cases ahead with
          | nil => exact absurd ⟨[], [], by simp⟩ (hbody _ htag)
          | cons c ahead =>
            -- The tag goes on behind the body, with the brace that stands there inside it.
            obtain ⟨rfl, -⟩ := List.cons.inj hahead
            simp only [List.cons_append, List.cons.injEq] at hbrace
            exact absurd (hbrace.2 ▸ List.mem_append_right body List.mem_cons_self) hinside
        · exact absurd ⟨[], left, by simp [hleft]⟩ (hbody tag htag)
    have hrest : ∀ tag, IsRawEnd tag → ¬ tag <:+: body := by
      intro tag htag hwithin
      exact hbody tag htag (hwithin.trans (List.suffix_cons ch body).isInfix)
    rw [List.cons_append] at hfront ⊢
    rw [splitAtRawEnd, hfront, ih hrest]
    rfl

/-! ### Tokens -/

/-- The tag that opens a raw body, as it is mostly written. -/
def rawTag : List Char := ['{', '%', ' ', 'r', 'a', 'w', ' ', '%', '}']

/-- The tag that ends it. -/
def endrawTag : List Char :=
  ['{', '%', ' ', 'e', 'n', 'd', 'r', 'a', 'w', ' ', '%', '}']

/-- The tag that opens a raw body. -/
lemma construct_raw {c : Cursor} (h : c.rest = rawTag ++ more) :
    ∃ found, construct .block c = .ok found ∧
      found.tokens.map Token.kind = [.directiveStart, .ident "raw", .directiveEnd] ∧
      isRawTag .block found.tokens = true ∧ found.length = 9 ∧ found.strip = false := by
  have hgap : ∀ ch ∈ [' '], Cursor.isIndent ch = true := List.forall_mem_singleton.mpr rfl
  have hinside : (c.advance 2).rest =
      [' '] ++ 'r' :: (['a', 'w'] ++ ' ' :: '%' :: '}' :: more) := by
    rw [Cursor.rest_advance, h]
    rfl
  have hscan : scan 'r' (['a', 'w'] ++ ' ' :: '%' :: '}' :: more) = .ok (.ident "raw", 2) := by
    have hword : ∀ ch ∈ ['a', 'w'], isIdentChar ch = true := List.all_eq_true.mp rfl
    exact scan_word rfl hword (breaks_cons (by decide))
  have hbehind : (((c.advance 2).advance 1).advance 3).rest = [' '] ++ '%' :: '}' :: more := by
    simp only [Cursor.rest_advance, h, List.drop_drop]
    rfl
  have hopen :
      closerAhead? .block ('r' :: (['a', 'w'] ++ ' ' :: '%' :: '}' :: more)) = none := by
    simp [closerAhead?, TagKind.closer, List.isPrefixOf]
  have htokens : tagTokens .block c.pos 0 (c.advance 2) = _ :=
    tagTokens_token hinside hgap hscan (fun _ => hopen) (tagTokens_end hbehind rfl hgap c.pos)
  have hhyphen : ¬ (c.rest.drop 2).head? = some '-' := by
    rw [h]
    simp [rawTag]
  unfold construct tag
  simp only [if_neg hhyphen, htokens]
  exact ⟨_, rfl, rfl, rfl, rfl, rfl⟩

/-- A body with the tag that ends it and a text behind that on the same line. -/
lemma rawBody_verbatim {c : Cursor} (hbody : ∀ tag, IsRawEnd tag → ¬ tag <:+: body)
    (h : c.rest = body ++ (endrawTag ++ ['y'])) (opened : Position) :
    ∃ tokens, rawBody opened c = .ok (tokens, body.length + 12, false) ∧
      tokens.map Token.kind =
        (Segment.ofText body).flatMap Segment.kinds ++ Segment.endKinds .jinja := by
  have hsplit : splitAtRawEnd c.rest = some (body, ⟨3, 12, false, false⟩) := by
    rw [h]
    exact splitAtRawEnd_append hbody rfl
  have halone :
      (c.advance body.length).standsAlone ((c.advance body.length).advance 12) = none := by
    have hend : ((c.advance body.length).advance 12).lineEnd? = none := by
      have hrest : ((c.advance body.length).advance 12).rest = ['y'] := by
        rw [Cursor.rest_advance, Cursor.rest_advance_of h]
        rfl
      rw [Cursor.lineEnd?, hrest]
      rfl
    rw [Cursor.standsAlone, hend, ite_self]
  unfold rawBody
  simp only [hsplit, halone]
  refine ⟨_, rfl, ?_⟩
  rw [List.map_append, Segment.kinds_textToken]
  rfl

/-- The step reads the body with the text before its tag. -/
lemma step_raw {c : Cursor} (hbefore : c.before = [])
    (hbody : ∀ tag, IsRawEnd tag → ¬ tag <:+: body)
    (h : c.rest = 'x' :: (rawTag ++ (body ++ (endrawTag ++ ['y']))))
    (hrest : c.rest ≠ []) : ∃ s, TokenStream.step .jinja false c hrest = .ok s ∧
      s.tokens.map Token.kind = .text "x" :: Segment.rawKinds .jinja body ∧
      s.length = body.length + 22 ∧ s.strip = false := by
  have hopener : (c.advance 1).rest =
      rawTag ++ (body ++ (endrawTag ++ ['y'])) := by
    rw [Cursor.rest_advance, h]
    rfl
  have hsplit : splitAtTag c.rest = some (['x'], .block) := by
    rw [h]
    rfl
  obtain ⟨found, hfound, hkinds, hraw, hlength, hstrip⟩ := construct_raw hopener
  have halone : (c.advance 1).standsAlone ((c.advance 1).advance 9) = none := by
    have hx : (c.advance 1).before = ['x'].reverse ++ c.before :=
      @Cursor.before_advance_of _ ['x'] _ h
    rw [Cursor.standsAlone, Cursor.leadsLine, hx, hbefore]
    rfl
  have hbehind : ((c.advance 1).advance 9).rest = body ++ (endrawTag ++ ['y']) :=
    @Cursor.rest_advance_of _ rawTag _ hopener
  have hhyphen : ((c.advance 1).rest.drop 2).head? = some ' ' := by
    rw [hopener]
    rfl
  obtain ⟨more, hmore, hmoreKinds⟩ := rawBody_verbatim hbody hbehind (c.advance 1).pos
  have hzero : ∀ d : Cursor, d.advance 0 = d := fun _ => rfl
  unfold TokenStream.step step
  simp only [Bool.false_eq_true, if_false, if_true, hzero, hsplit, List.length_singleton, hfound,
    hlength, hstrip, halone, ite_self, hraw, hhyphen, Option.getD_none, hmore]
  refine ⟨_, rfl, ?_, ?_, rfl⟩
  · rw [List.map_append, List.map_append, hkinds, hmoreKinds]
    rfl
  · change 0 + 1 + 9 + 0 + (body.length + 12) = body.length + 22
    omega

end Token.Jinja

/-! ### The end of a body in the native dialect -/

namespace Token.Native

variable {body more before : List Char} {c : Cursor}

/-- The word that ends a body. -/
def endWord : List Char := ['@', 'e', 'n', 'd']

/-- Wherever the word occurs in a body, a letter, digit or underscore touches it. What stands before
the body is given backwards. -/
def IsEndless (before body : List Char) : Prop :=
  ∀ pre post, body = pre ++ (endWord ++ post) →
    (pre.reverse ++ before).head?.any isIdentChar = true ∨ post.head?.any isIdentChar = true

/-- Where the word is touched inside the body wherever it occurs, it does not matter what stands
before the body. -/
lemma isEndless_of_touched (before : List Char) {body : List Char}
    (h : ∀ pre post, body = pre ++ (endWord ++ post) →
      pre.getLast?.any isIdentChar = true ∨ post.head?.any isIdentChar = true) :
    IsEndless before body := by
  intro pre post heq
  cases h pre post heq with
  | inr htouched => exact .inr htouched
  | inl htouched =>
    left
    rw [List.head?_append, List.head?_reverse]
    cases hlast : pre.getLast? with
    | none => simp [hlast] at htouched
    | some ch => simpa [hlast] using htouched

lemma findEnd_cons {ch : Char} (h : c.rest = ch :: more) :
    findEnd c = if endWord.isPrefixOf (ch :: more) && !c.before.head?.any isIdentChar &&
        !((ch :: more).drop 4).head?.any isIdentChar then some 0
      else (findEnd (c.advance 1)).map (· + 1) := by
  rw [findEnd.eq_def]
  split
  · rename_i hrest
    rw [h] at hrest
    cases hrest
  · rename_i hrest
    rw [h] at hrest
    cases hrest
    rfl

/-- A word that begins in a body does not end behind the line break there. -/
lemma exists_of_endWord (h : endWord <+: body ++ '\n' :: more) :
    ∃ post, body = endWord ++ post := by
  obtain ⟨behind, hbehind⟩ := h
  rcases List.append_eq_append_iff.mp hbehind.symm with ⟨ahead, hahead, hbreak⟩ | ⟨post, hpost, -⟩
  · cases ahead with
    | nil => exact ⟨[], by simpa using hahead.symm⟩
    | cons d ahead =>
      obtain ⟨rfl, -⟩ := List.cons.inj hbreak
      have hmem : '\n' ∈ endWord := by simp [hahead]
      exact absurd hmem (by decide)
  · exact ⟨post, hpost⟩

/-- A body in which the word always touches others ends at the word on the line behind it. -/
lemma findEnd_append (hbody : IsEndless c.before body)
    (h : c.rest = body ++ '\n' :: (endWord ++ ['\n'])) : findEnd c = some (body.length + 1) := by
  induction body generalizing c with
  | nil =>
    have hline : (c.advance 1).rest = '@' :: ['e', 'n', 'd', '\n'] :=
      @Cursor.rest_advance_of _ ['\n'] _ h
    have hbefore : (c.advance 1).before = '\n' :: c.before :=
      @Cursor.before_advance_of _ ['\n'] _ h
    rw [findEnd_cons h, findEnd_cons hline, hbefore]
    rfl
  | cons ch body ih =>
    have hstep : (c.advance 1).rest = body ++ '\n' :: (endWord ++ ['\n']) :=
      @Cursor.rest_advance_of _ [ch] _ h
    have hbefore : (c.advance 1).before = ch :: c.before :=
      @Cursor.before_advance_of _ [ch] _ h
    have hrest : IsEndless (c.advance 1).before body := by
      intro pre post heq
      have htouched := hbody (ch :: pre) post (by rw [heq]; rfl)
      simpa [hbefore] using htouched
    rw [List.cons_append] at h
    rw [findEnd_cons h, if_neg, ih hrest hstep]
    · rfl
    · intro hfound
      simp only [Bool.and_eq_true, Bool.not_eq_true', List.isPrefixOf_iff_prefix] at hfound
      obtain ⟨⟨hword, hclear⟩, hclear'⟩ := hfound
      obtain ⟨post, hpost⟩ := @exists_of_endWord (ch :: body) _ hword
      have hbehind : (ch :: (body ++ '\n' :: (endWord ++ ['\n']))).drop 4 =
          post ++ '\n' :: (endWord ++ ['\n']) := by
        rw [← List.cons_append, hpost]
        rfl
      rw [hbehind] at hclear'
      rcases hbody [] post hpost with htouched | htouched
      · rw [List.reverse_nil, List.nil_append, hclear] at htouched
        cases htouched
      · cases post with
        | nil => cases htouched
        | cons d post =>
          rw [List.cons_append, List.head?_cons] at hclear'
          rw [List.head?_cons, hclear'] at htouched
          cases htouched

/-- What leads its line and has the line break behind it stands alone. -/
lemma standsAlone_of_newline {closer : Cursor} (hlead : c.leadsLine = true)
    (h : closer.rest = '\n' :: more) : c.standsAlone closer = some 1 := by
  rw [Cursor.standsAlone, if_pos hlead]
  exact @Cursor.lineEnd?_of _ [] _ h (List.forall_mem_nil _)

lemma marker?_raw (hbefore : c.before = []) (h : c.rest = ['@', 'r', 'a', 'w'] ++ '\n' :: more) :
    marker? c = some (.directive "raw") := by
  have hrun : (['a', 'w'] ++ '\n' :: more).takeWhile isIdentChar = ['a', 'w'] :=
    takeWhile_before (List.all_eq_true.mp rfl) (breaks_cons (by decide))
  unfold marker?
  rw [h]
  simp only [List.cons_append] at hrun ⊢
  simp only [List.nil_append] at hrun ⊢
  rw [hrun, hbefore]
  rfl

/-- The construct of a body that begins and ends with lines of its own. -/
lemma enclosed_raw (hbefore : c.before = []) (hbody : IsEndless ['\n'] body)
    (h : c.rest = ['@', 'r', 'a', 'w'] ++ '\n' :: (body ++ '\n' :: (endWord ++ ['\n']))) :
    ∃ found, enclosed c "raw" = .ok found ∧
      found.tokens.map Token.kind = Segment.rawKinds .native (body ++ ['\n']) ∧
      found.length = c.rest.length := by
  have hopened : c.standsAlone (c.advance 4) = some 1 := by
    have hlead : c.leadsLine = true := by
      rw [Cursor.leadsLine, hbefore]
      rfl
    exact standsAlone_of_newline hlead (@Cursor.rest_advance_of _ ['@', 'r', 'a', 'w'] _ h)
  have hline : c.rest = ['@', 'r', 'a', 'w', '\n'] ++ (body ++ '\n' :: (endWord ++ ['\n'])) := h
  have hstart : (c.advance 5).rest = body ++ '\n' :: (endWord ++ ['\n']) :=
    @Cursor.rest_advance_of _ ['@', 'r', 'a', 'w', '\n'] _ hline
  have hfind : findEnd (c.advance 5) = some (body.length + 1) := by
    have hstartBefore : (c.advance 5).before = ['\n', 'w', 'a', 'r', '@'] := by
      have hall := @Cursor.before_advance_of _ ['@', 'r', 'a', 'w', '\n'] _ hline
      rw [hbefore] at hall
      exact hall
    apply findEnd_append _ hstart
    intro pre post heq
    have htouched := hbody pre post heq
    rw [hstartBefore]
    rw [List.head?_append] at htouched ⊢
    exact htouched
  have hbodyLine : (c.advance 5).rest = (body ++ ['\n']) ++ (endWord ++ ['\n']) := by
    rw [hstart, List.append_assoc]
    rfl
  have hlength : (body ++ ['\n']).length = body.length + 1 := List.length_append
  have hclosed : (c.advance (5 + (body.length + 1))).standsAlone
      (c.advance (5 + (body.length + 1) + 4)) = some 1 := by
    have hcloser : (c.advance (5 + (body.length + 1))).rest = endWord ++ ['\n'] := by
      rw [Cursor.advance_add, ← hlength, Cursor.rest_advance_of hbodyLine]
    have hlead : (c.advance (5 + (body.length + 1))).leadsLine = true := by
      rw [Cursor.leadsLine, Cursor.advance_add, ← hlength, Cursor.before_advance_of hbodyLine,
        List.reverse_append]
      rfl
    have hline : (c.advance (5 + (body.length + 1) + 4)).rest = ['\n'] := by
      rw [Cursor.advance_add]
      exact @Cursor.rest_advance_of _ endWord _ hcloser
    exact standsAlone_of_newline hlead hline
  have hkept : Text.dropEndWhile Cursor.isIndent ((c.advance 5).rest.take (body.length + 1)) =
      body ++ ['\n'] := by
    rw [hbodyLine, ← hlength, List.take_left]
    simp [Text.dropEndWhile, Cursor.isIndent]
  unfold enclosed
  simp only [show (1 + "raw".length) = 4 from rfl, hopened, Option.getD_some, hfind, hclosed,
    Option.isSome_some, if_true, hkept]
  refine ⟨_, rfl, ?_, ?_⟩
  · simp only [List.map_append, Segment.kinds_textToken]
    simp [head, Cursor.token, Segment.rawKinds, Segment.endKinds, Node.closer]
  · simp only [hline, List.length_append, List.length_cons, endWord, List.length_nil]
    omega

/-- The step reads the whole of the text. -/
lemma step_raw (hbefore : c.before = []) (hbody : IsEndless ['\n'] body)
    (h : c.rest = ['@', 'r', 'a', 'w'] ++ '\n' :: (body ++ '\n' :: (endWord ++ ['\n'])))
    (hrest : c.rest ≠ []) : ∃ s, TokenStream.step .native false c hrest = .ok s ∧
      s.tokens.map Token.kind = Segment.rawKinds .native (body ++ ['\n']) ∧
      s.length = c.rest.length ∧ s.strip = false := by
  have hliteral : literal c = ([], 0, some (.directive "raw")) :=
    literal_marker h (.inr rfl) (marker?_raw hbefore h)
  obtain ⟨found, hfound, hkinds, hlength⟩ := enclosed_raw hbefore hbody h
  have hconstruct : construct (c.advance 0) (.directive "raw") = .ok found := hfound
  unfold TokenStream.step step
  simp only [hliteral, hconstruct]
  refine ⟨_, rfl, ?_, ?_, rfl⟩
  · have hempty : ∀ keep : Bool, c.textToken
        (if keep then Text.dropEndWhile Cursor.isIndent [] else []) 0 = [] := by
      rintro (_ | _) <;> rfl
    rw [hempty, List.nil_append, hkinds]
  · change 0 + found.length = c.rest.length
    omega

end Token.Native

/-! ### Nodes -/

namespace Segment

/-- The first token of a text whose kinds are known. -/
lemma exists_token {tokens : List Token} {kind : Token.Kind} {kinds : List Token.Kind}
    (h : tokens.map Token.kind = kind :: kinds) :
    ∃ lexeme offset pos rest, tokens = ⟨kind, lexeme, offset, pos⟩ :: rest ∧
      rest.map Token.kind = kinds := by
  obtain ⟨⟨kind', lexeme, offset, pos⟩, rest, htokens, rfl, hrest⟩ := List.map_eq_cons_iff.mp h
  exact ⟨lexeme, offset, pos, rest, htokens, hrest⟩

/-- The directive of a raw body takes the text, if there is one, and its closer. -/
lemma outcome_directive_raw (d : Dialect) (stop : Position) {expr : Parser Expr}
    {nodes : Parser (List Node)} {pos : Position} {tokens : List Token} {body : List Char}
    (h : tokens.map Token.kind = (rawKinds d body).tail) :
    (Node.directive expr nodes pos).outcome ⟨d, none, stop⟩ tokens =
      .ok (.raw (String.ofList body), []) := by
  obtain ⟨_, _, _, tokens, rfl, hend⟩ := exists_token h
  obtain ⟨_, _, _, tokens, rfl, hbody⟩ := exists_token hend
  obtain ⟨text, tokens, rfl, htext, hclose⟩ := List.map_eq_append_iff.mp hbody
  obtain ⟨_, _, _, tokens, rfl, hname⟩ := exists_token hclose
  obtain ⟨_, _, _, tokens, rfl, hlast⟩ := exists_token hname
  obtain ⟨_, _, _, tokens, rfl, hnil⟩ := exists_token hlast
  obtain rfl := List.map_eq_nil_iff.mp hnil
  cases body with
  | nil =>
    obtain rfl := List.map_eq_nil_iff.mp htext
    cases d <;> rfl
  | cons ch body =>
    obtain ⟨_, _, _, none, rfl, hnone⟩ := exists_token htext
    obtain rfl := List.map_eq_nil_iff.mp hnone
    cases d <;> rfl

/-- The tokens of a raw body are one node. -/
lemma ofTokens_raw (d : Dialect) {tokens : List Token} {body : List Char}
    (h : tokens.map Token.kind = rawKinds d body) (stop : Position) :
    Node.ofTokens ⟨d, tokens, none, stop⟩ = .ok [.raw (String.ofList body)] := by
  obtain ⟨lexeme, offset, pos, tokens, rfl, hrest⟩ := exists_token h
  have hnext : Node.nodeAhead.outcome ⟨d, none, stop⟩
      (⟨.directiveStart, lexeme, offset, pos⟩ :: tokens) =
      .ok (some (), ⟨.directiveStart, lexeme, offset, pos⟩ :: tokens) := by
    obtain ⟨_, _, _, tokens, rfl, -⟩ := exists_token hrest
    cases d <;> rfl
  have hnodes : (Node.parser Parser.maxNesting).outcome ⟨d, none, stop⟩
      (⟨.directiveStart, lexeme, offset, pos⟩ :: tokens) =
        .ok ([.raw (String.ofList body)], []) := by
    have hnode : ((do return (← Node.directive (Expr.parser 63) (Node.parser 63) pos, true)) :
        Parser (Node × Bool)).outcome ⟨d, none, stop⟩ tokens =
          .ok ((.raw (String.ofList body), true), []) :=
      Parser.outcome_bind_ok (outcome_directive_raw d stop hrest) _
    unfold Parser.maxNesting Node.parser
    rw [Parser.repeatWhile_some hnext, Parser.outcome_bind_ok hnode, if_pos rfl,
      Parser.outcome_bind_ok (Parser.repeatWhile_none rfl)]
    rfl
  rw [Node.ofTokens_eq]
  change Except.map _ (Node.template.outcome ⟨d, none, stop⟩ _) = _
  rw [Node.outcome_template hnodes rfl]
  rfl

end Segment

namespace Engine

open Segment Render

/-- The nodes that stand for literal text. -/
def IsLiteral (node : Node) (text : String) : Prop := node = .text text ∨ node = .raw text

/-- Nodes that stand for literal text are compiled to code that writes the text. -/
lemma exists_code_literals (r : Registry) (tables : Template.Tables) {nodes : List Node}
    {texts : List String}
    (h : List.Forall₂ IsLiteral nodes texts) :
    ∃ code, (Template.compileNodes r true nodes).run tables = .ok (code, tables) ∧
      ∀ env calls t output,
        execAll env calls t output code = pure (.normal, output ++ String.join texts) := by
  induction h with
  | nil =>
    refine ⟨[], rfl, fun env calls t output => ?_⟩
    rw [execAll]
    simp
  | @cons node text nodes texts hnode _ ih =>
    obtain ⟨code, hcode, hwrites⟩ := ih
    refine ⟨Template.prepend (some (.text text)) code, ?_, fun env calls t output => ?_⟩
    · have hcompile : Template.compileNode r true node = pure (some (.text text)) := by
        rcases hnode with rfl | rfl <;> rw [Template.compileNode]
      rw [Template.compileNodes, hcompile, pure_bind, StateT.run_bind, hcode]
      rfl
    · rw [execAll_prepend_text, hwrites, String.join_cons, String.append_assoc]

/-- Nodes that stand for literal text are rendered as the text, in every context. -/
lemma render_literals {d : Dialect} {source : String} {nodes : List Node} {texts : List String}
    (hsource : Node.ofSource (some d) source = .ok (nodes, d))
    (hnodes : List.Forall₂ IsLiteral nodes texts)
    (e : Engine) (name : Option String) :
    ∃ t, e.compile (some d) name source = .ok t ∧
      ∀ vars session, e.render t vars session = (.ok (String.join texts), session) := by
  obtain ⟨code, hcode, hwrites⟩ := exists_code_literals e.registry {} hnodes
  refine ⟨⟨name, d, code, [], [], none⟩, ?_, fun vars session => ?_⟩
  · exact Template.ofSource_eq_ok.mpr
      ⟨nodes, d, hsource, Template.ofNodes_eq_ok.mpr ⟨code, {}, hcode, rfl⟩⟩
  · refine render_of_execAll rfl fun calls => ?_
    rw [hwrites, String.empty_append]
    rfl

/-- The tokens of a text in which nothing is wrong tell its nodes. -/
lemma ofSource_of_tokens {d : Dialect} {source : String} {tokens : List Token} {nodes : List Node}
    (h : TokenStream.tokensFrom d false (.start source.toList) = (tokens, none))
    (hnodes : ∀ stop, Node.ofTokens ⟨d, tokens, none, stop⟩ = .ok nodes) :
    Node.ofSource (some d) source = .ok (nodes, d) := by
  unfold Node.ofSource TokenStream.ofSource TokenStream.ofText Dialect.resolve
  simp only [h, hnodes]
  rfl

/-- A raw body between two texts in the jinja dialect. -/
lemma ofSource_raw_jinja {body : String}
    (hbody : ∀ tag, Token.Jinja.IsRawEnd tag → ¬ tag <:+: body.toList) :
    Node.ofSource (some .jinja) ("x{% raw %}" ++ body ++ "{% endraw %}y") =
      .ok ([.text "x", .raw body, .text "y"], .jinja) := by
  have htext : ("x{% raw %}" ++ body ++ "{% endraw %}y").toList = 'x' ::
      (Token.Jinja.rawTag ++ (body.toList ++ (Token.Jinja.endrawTag ++ ['y']))) := by
    simp [Token.Jinja.rawTag, Token.Jinja.endrawTag]
  generalize ("x{% raw %}" ++ body ++ "{% endraw %}y") = source at htext
  have hrest : (Cursor.start source.toList).rest ≠ [] := by
    simp [Cursor.start, htext]
  obtain ⟨s, hs, hkinds, hlength, hstrip⟩ :=
    Token.Jinja.step_raw (c := .start source.toList) rfl hbody htext hrest
  have hlast : ((Cursor.start source.toList).advance s.length).rest =
      spell .jinja [] ++ [literal "y"].flatMap (print .jinja) := by
    rw [Cursor.rest_advance, hlength]
    simp [Cursor.start, htext, Token.Jinja.rawTag, Token.Jinja.endrawTag, spell, print]
  obtain ⟨last, htokens, hlastKinds⟩ := tokensFrom_segments .jinja (by decide) isPlain_nil hlast
  have hlastKinds : last.map Token.kind = (literal "y").kinds := hlastKinds
  apply ofSource_of_tokens (Document.tokensFrom_step hrest hs hstrip htokens)
  intro stop
  have hparts : s.tokens.map Token.kind = (literal "x").kinds ++ rawKinds .jinja body.toList :=
    hkinds
  obtain ⟨first, raw, hsplit, hfirst, hraw⟩ := List.map_eq_append_iff.mp hparts
  obtain ⟨_, rfl, hx⟩ := exists_node hfirst .jinja stop
  obtain ⟨_, rfl, hy⟩ := exists_node hlastKinds .jinja stop
  have hbehind : Node.ofTokens ⟨.jinja, raw ++ last, none, stop⟩ =
      .ok [.raw body, .text "y"] := by
    have hboth := Node.ofTokens_append (s := ⟨.jinja, raw, none, stop⟩)
      (t := ⟨.jinja, last, none, stop⟩) rfl (ofTokens_raw .jinja hraw stop)
    rw [hy, String.ofList_toList] at hboth
    exact hboth
  have hall := Node.ofTokens_append (s := ⟨.jinja, first, none, stop⟩)
    (t := ⟨.jinja, raw ++ last, none, stop⟩) rfl hx
  rw [hbehind] at hall
  rw [hsplit, List.append_assoc]
  exact hall

/-- A raw body on lines of its own in the native dialect. -/
lemma ofSource_raw_native {body : String} (hbody : Token.Native.IsEndless ['\n'] body.toList) :
    Node.ofSource (some .native) ("@raw\n" ++ body ++ "\n@end\n") =
      .ok ([.raw (body ++ "\n")], .native) := by
  have htext : ("@raw\n" ++ body ++ "\n@end\n").toList = ['@', 'r', 'a', 'w'] ++ '\n' ::
      (body.toList ++ '\n' :: (Token.Native.endWord ++ ['\n'])) := by
    simp [Token.Native.endWord]
  generalize ("@raw\n" ++ body ++ "\n@end\n") = source at htext
  have hrest : (Cursor.start source.toList).rest ≠ [] := by
    simp [Cursor.start, htext]
  obtain ⟨s, hs, hkinds, hlength, hstrip⟩ :=
    Token.Native.step_raw (c := .start source.toList) rfl hbody htext hrest
  have hend : TokenStream.tokensFrom .native false ((Cursor.start source.toList).advance s.length) =
      ([], none) := by
    apply Document.tokensFrom_end
    rw [Cursor.rest_advance, hlength, List.drop_length]
  apply ofSource_of_tokens (Document.tokensFrom_step hrest hs hstrip hend)
  intro stop
  have hnode := ofTokens_raw .native hkinds stop
  rw [List.append_nil, hnode]
  simp

/-- Raw bodies are rendered as they stand. In the jinja dialect this holds of every body without a
tag that ends it, in the native dialect of every body in which the word that ends it touches
others wherever it occurs. -/
theorem raw_bodies_verbatim (e : Engine) (name : Option String) (body : String) :
    ((∀ tag, Token.Jinja.IsRawEnd tag → ¬ tag <:+: body.toList) →
      ∃ t, e.compile (some .jinja) name
          ("x{% raw %}" ++ body ++ "{% endraw %}y") = .ok t ∧
        ∀ vars session, e.render t vars session = (.ok ("x" ++ body ++ "y"), session)) ∧
    ((∀ pre post, body.toList = pre ++ ("@end".toList ++ post) →
        pre.getLast?.any Token.isIdentChar = true ∨ post.head?.any Token.isIdentChar = true) →
      ∃ t, e.compile (some .native) name ("@raw\n" ++ body ++ "\n@end\n") = .ok t ∧
        ∀ vars session, e.render t vars session = (.ok (body ++ "\n"), session)) := by
  constructor
  · intro hbody
    have hnodes : List.Forall₂ IsLiteral
        [.text "x", .raw body, .text "y"] ["x", body, "y"] := by
      simp [IsLiteral]
    obtain ⟨t, ht, hrender⟩ := render_literals (ofSource_raw_jinja hbody) hnodes e name
    refine ⟨t, ht, fun vars session => ?_⟩
    rw [hrender]
    simp [String.join]
  · intro hbody
    have hendless := Token.Native.isEndless_of_touched ['\n'] hbody
    have hnodes : List.Forall₂ IsLiteral
        [.raw (body ++ "\n")] [body ++ "\n"] := by
      simp [IsLiteral]
    obtain ⟨t, ht, hrender⟩ := render_literals (ofSource_raw_native hendless) hnodes e name
    refine ⟨t, ht, fun vars session => ?_⟩
    rw [hrender]
    simp [String.join]

/-- A tag that would end a raw body if it were closed. -/
def nearMiss : String := Token.Jinja.TagKind.block.opener ++ " endraw"

/-- A body that ends inside a tag of the same name, and one in which the word stands behind letters:
both abut the real end. -/
theorem raw_bodies_verbatim_abutting :
    (∃ t, default.compile (some .jinja) none
        ("x{% raw %}" ++ nearMiss ++ "{% endraw %}y") = .ok t ∧
      default.render t [] {} = (.ok ("x" ++ nearMiss ++ "y"), {})) ∧
    ∃ t, default.compile (some .native) none "@raw\nme@end\n@end\n" = .ok t ∧
      default.render t [] {} = (.ok "me@end\n", {}) := by
  constructor
  · have hbody : ∀ tag, Token.Jinja.IsRawEnd tag → ¬ tag <:+: nearMiss.toList := by
      rintro tag ⟨before, after, front, back, -, -, rfl⟩ hwithin
      have hbrace : '}' ∈ nearMiss.toList :=
        hwithin.subset (by simp [Token.Jinja.TagKind.closer])
      exact absurd hbrace (by decide)
    obtain ⟨t, ht, hrender⟩ := (raw_bodies_verbatim default none nearMiss).1 hbody
    exact ⟨t, ht, hrender [] {}⟩
  · have hbody : ∀ pre post, "me@end".toList = pre ++ ("@end".toList ++ post) →
        pre.getLast?.any Token.isIdentChar = true ∨ post.head?.any Token.isIdentChar = true := by
      intro pre post heq
      rcases pre with _ | ⟨a, _ | ⟨b, _ | ⟨c, pre⟩⟩⟩
      · simp at heq
      · simp at heq
      · obtain ⟨-, rfl, -⟩ : 'm' = a ∧ 'e' = b ∧ post = [] := by simpa using heq
        exact .inl rfl
      · have hlength := congrArg List.length heq
        simp at hlength
        omega
    obtain ⟨t, ht, hrender⟩ := (raw_bodies_verbatim default none "me@end").2 hbody
    exact ⟨t, ht, hrender [] {}⟩

end Engine

end Stencil
