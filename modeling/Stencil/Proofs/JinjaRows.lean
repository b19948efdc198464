import Stencil.Proofs.LineStart

/-! How the jinja dialect cuts a line that is no text. -/
namespace Stencil.Token.Jinja

open Document

variable {c : Cursor} {text indent gap more : List Char}

/-! ### Text before a tag -/

lemma splitAtTag_none (h : ∀ ch ∈ text, ch ≠ '{') : splitAtTag text = none := by
  induction text with
  | nil => rfl
  | cons ch text ih =>
    obtain ⟨hch, htext⟩ := List.forall_mem_cons.mp h
    rw [splitAtTag, if_neg hch, ih htext]
    rfl

lemma splitAtTag_append (h : ∀ ch ∈ text, ch ≠ '{') {kind : TagKind}
    (hmore : splitAtTag more = some ([], kind)) :
    splitAtTag (text ++ more) = some (text, kind) := by
  induction text with
  | nil => exact hmore
  | cons ch text ih =>
    obtain ⟨hch, htext⟩ := List.forall_mem_cons.mp h
    rw [List.cons_append, splitAtTag, if_neg hch, ih htext]
    rfl

/-! ### Comments -/

/-- A comment ends at the first closer, which is the one behind its content. -/
lemma splitAt?_comment {content : List Char}
    (h : Text.occursIn ['#', '}'] content = false) :
    Text.splitAt? ['#', '}'] (content ++ ' ' :: '#' :: '}' :: more) =
      some (content ++ [' '], '#' :: '}' :: more) := by
  induction content with
  | nil => rfl
  | cons ch content ih =>
    simp only [Text.occursIn, Text.splitAt?, Option.isSome_eq_false_iff] at h
    have hpre : ['#', '}'].isPrefixOf (ch :: content) = false := by
      by_contra hpre
      rw [if_pos (by simpa using hpre)] at h
      cases h
    have hrest : Text.occursIn ['#', '}'] content = false := by
      rw [hpre] at h
      simpa [Text.occursIn] using h
    have hlonger : ['#', '}'].isPrefixOf (ch :: (content ++ ' ' :: '#' :: '}' :: more)) =
        false := by
      cases content with
      | nil => simp [List.isPrefixOf]
      | cons d content => exact hpre
    rw [List.cons_append, Text.splitAt?, hlonger, ih hrest]
    rfl

/-! ### Arguments -/

lemma balanced_percent {shapes : List Shape} (h : Reads ('%' :: '}' :: text) shapes) :
    balanced 0 shapes = false := by
  have hpercent : scan '%' ('}' :: text) = .ok (.symbol .percent, 0) := rfl
  have hbrace : scan '}' text = .ok (.symbol .closeBrace, 0) := by
    cases text <;> rfl
  obtain ⟨_, rfl, hbehind⟩ := h.of_symbol hpercent
  obtain ⟨_, rfl, -⟩ := hbehind.of_symbol hbrace
  rfl

lemma balanced_hyphen {shapes : List Shape} (h : Reads ('-' :: '%' :: '}' :: text) shapes) :
    balanced 0 shapes = false := by
  have hhyphen : scan '-' ('%' :: '}' :: text) = .ok (.symbol .minus, 0) := rfl
  obtain ⟨behind, rfl, hbehind⟩ := h.of_symbol hhyphen
  have hdepth : balanced 0 behind = false := balanced_percent hbehind
  exact hdepth

/-- Where brackets balance no closer stands outside of them. -/
lemma closerAhead?_of_reads {shapes : List Shape} (h : Reads text shapes)
    (hbalanced : balanced 0 shapes = true) : closerAhead? .block (text ++ ' ' :: more) = none := by
  have hplain : ['%', '}'].isPrefixOf (text ++ ' ' :: more) = false := by
    match text with
    | [] => rfl
    | [a] => simp [List.isPrefixOf]
    | a :: b :: rest =>
      by_contra hpre
      simp [List.isPrefixOf] at hpre
      obtain ⟨rfl, rfl⟩ := hpre
      rw [balanced_percent h] at hbalanced
      cases hbalanced
  have hhyphen : ['-', '%', '}'].isPrefixOf (text ++ ' ' :: more) = false := by
    match text with
    | [] => rfl
    | [a] => simp [List.isPrefixOf]
    | [a, b] => simp [List.isPrefixOf]
    | a :: b :: d :: rest =>
      by_contra hpre
      simp [List.isPrefixOf] at hpre
      obtain ⟨rfl, rfl, rfl⟩ := hpre
      rw [balanced_hyphen h] at hbalanced
      cases hbalanced
  unfold closerAhead?
  have hcloser : TagKind.block.closer.toList = ['%', '}'] := rfl
  simp only [hcloser, hplain, hhyphen]
  rfl

lemma tagTokens_end {tag : TagKind} {ch : Char} (h : c.rest = gap ++ ch :: '}' :: more)
    (hcloser : tag.closer.toList = [ch, '}']) (hgap : ∀ ch ∈ gap, Cursor.isIndent ch = true)
    (opened : Position) :
    tagTokens tag opened 0 c =
      .ok ([(c.advance gap.length).token tag.endKind 2], gap.length + 2, false) := by
  have hblank : Unicode.isWhitespace ch = false := by
    cases tag <;> cases hcloser <;> decide
  have hahead : closerAhead? tag (ch :: '}' :: more) = some (2, false) := by
    cases tag <;> cases hcloser <;> rfl
  have hblanks : c.blanks true = gap.length :=
    Cursor.blanks_of h hgap (Cursor.isLineBlank_of_not_isWhitespace hblank) (by rw [hblank]; rfl)
  have hrest : (c.advance gap.length).rest = ch :: '}' :: more := Cursor.rest_advance_of h
  rw [tagTokens.eq_def]
  simp only [hblanks, hrest, if_pos, hahead]

lemma tagTokens_token {tag : TagKind} {opened : Position} {depth : Nat} {ch : Char} {kind : Kind}
    {n m : Nat} {strip : Bool} {tokens : List Token} (h : c.rest = gap ++ ch :: more)
    (hgap : ∀ ch ∈ gap, Cursor.isIndent ch = true) (hscan : scan ch more = .ok (kind, n))
    (hopen : depth = 0 → closerAhead? tag (ch :: more) = none)
    (hmore : tagTokens tag opened (kind.depthAfter depth)
      ((c.advance gap.length).advance (n + 1)) = .ok (tokens, m, strip)) :
    tagTokens tag opened depth c = .ok
      ((c.advance gap.length).token kind (n + 1) :: tokens, gap.length + (n + 1) + m, strip) := by
  have hblanks := Cursor.blanks_of_scan h hgap hscan true
  obtain ⟨hrest, hnext, hlength⟩ := scanAt_behind h hblanks hscan
  have hcloser : (if depth = 0 then closerAhead? tag (ch :: more) else none) = none := by
    split
    · exact hopen ‹_›
    · rfl
  rw [← hblanks] at hmore ⊢
  rw [tagTokens.eq_def]
  simp only [hrest, hcloser]
  split
  · rename_i hat
    cases hat.symm.trans hnext
  · rename_i hat
    cases hat.symm.trans hnext
    simp only [hlength, hmore]

/-- Arguments are read up to the closer behind them. -/
theorem tagTokens_of_reads {shapes : List Shape} (hreads : Reads text shapes) (opened : Position)
    {depth : Nat} (hbalanced : balanced depth shapes = true)
    (h : c.rest = text ++ ' ' :: '%' :: '}' :: more) :
    ∃ tokens, tagTokens .block opened depth c = .ok (tokens, text.length + 3, false) ∧
      tokens.map Token.shape = shapes ++ [⟨.directiveEnd, none⟩] := by
  induction hreads generalizing c depth with
  | @blank gap hgap =>
    obtain rfl : depth = 0 := by simpa [balanced] using hbalanced
    have h : c.rest = (gap ++ [' ']) ++ '%' :: '}' :: more := by
      rw [h, List.append_assoc]
      rfl
    have hgap : ∀ ch ∈ gap ++ [' '], Cursor.isIndent ch = true :=
      List.forall_mem_append.mpr ⟨hgap, List.forall_mem_singleton.mpr rfl⟩
    have htokens : tagTokens .block opened 0 c = _ := tagTokens_end h rfl hgap opened
    rw [List.length_append] at htokens
    exact ⟨_, htokens, rfl⟩
  | @token gap word behind ch kind shapes hgap hscan hbehind ih =>
    have hscan' := scan_append hscan (rfl : isStop ' ' = true) ('%' :: '}' :: more)
    rw [List.append_assoc, List.cons_append, List.append_assoc] at h
    rw [List.append_assoc] at hscan'
    have hrest : (c.advance gap.length).rest =
        (ch :: word) ++ (behind ++ ' ' :: '%' :: '}' :: more) := Cursor.rest_advance_of h
    have hopen : depth = 0 →
        closerAhead? .block (ch :: (word ++ (behind ++ ' ' :: '%' :: '}' :: more))) = none := by
      rintro rfl
      have hreads := Reads.token (List.forall_mem_nil _) hscan hbehind
      have hcloser : closerAhead? .block
          ((ch :: (word ++ behind)) ++ ' ' :: '%' :: '}' :: more) = none := by
        exact closerAhead?_of_reads hreads hbalanced
      rwa [List.cons_append, List.append_assoc] at hcloser
    simp only [balanced, Bool.and_eq_true] at hbalanced
    have hdepth : balanced (kind.depthAfter depth) shapes = true := hbalanced.2
    obtain ⟨tokens, hmore, hshapes⟩ := ih hdepth (Cursor.rest_advance_of hrest)
    have htokens := tagTokens_token h hgap hscan' hopen hmore
    rw [← Nat.add_assoc _ behind.length, ← length_spaced] at htokens
    refine ⟨_, htokens, ?_⟩
    rw [List.map_cons, hshapes]
    exact congrArg (· :: _) (Cursor.shape_token hrest kind)

/-! ### Lines -/

/-- A tag or comment that a line is made of. -/
structure Fills (row : Row) (found : Step) (n : Nat) : Prop where
  shapes : found.tokens.map Token.shape = row.shapes .jinja
  length : found.length = n
  strip : found.strip = false

lemma construct_comment {content : List Char}
    (hcontent : Text.occursIn ['#', '}'] content = false)
    (h : c.rest = '{' :: '#' :: ' ' :: (content ++ ' ' :: '#' :: '}' :: more)) :
    ∃ found, construct .comment c = .ok found ∧
      Fills (.comment indent content) found (content.length + 6) := by
  have hsplit : Text.splitAt? TagKind.comment.closer.toList (c.rest.drop 2) =
      some (' ' :: (content ++ [' ']), '#' :: '}' :: more) := by
    rw [h]
    change Text.splitAt? ['#', '}'] (' ' :: (content ++ ' ' :: '#' :: '}' :: more)) = _
    rw [Text.splitAt?, if_neg (by simp [List.isPrefixOf]), splitAt?_comment hcontent]
    rfl
  have hlast : (' ' :: (content ++ [' '])).getLast? = some ' ' := by
    rw [← List.cons_append, List.getLast?_concat]
  unfold construct comment
  simp only [hsplit]
  refine ⟨_, rfl, rfl, ?_, ?_⟩
  · simp only [List.length_cons, List.length_append, List.length_nil]
  · simp [hlast]

lemma construct_directive {word : Word} {head : Heading}
    (hproper : (Row.directive word head).isProper = true)
    (h : c.rest = '{' :: '%' :: ' ' ::
      ((word.name .jinja).toList ++ (head.args ++ ' ' :: '%' :: '}' :: more))) :
    ∃ found, construct .block c = .ok found ∧
      Fills (.directive word head) found
        ((word.name .jinja).length + head.args.length + 6) := by
  obtain ⟨-, hfirst, shapes, hshapes, hbalanced⟩ := Row.isProper_directive hproper
  obtain ⟨first, others, hname, hstart, hothers, ⟨hquote, hquote', hdigit⟩, hident⟩ :=
    word.name_spelled .jinja
  have hscan :
      scan first (others ++ head.args) = .ok (.ident (word.name .jinja), others.length) := by
    have hrun : (others ++ head.args).takeWhile isIdentChar = others :=
      takeWhile_before hothers fun ch hch => isIdentChar_of_isIndent (hfirst ch hch)
    unfold scan
    rw [if_neg (by simp [hquote, hquote']), hdigit, hstart, hrun, ← hident]
    rfl
  have hgap : ∀ ch ∈ [' '], Cursor.isIndent ch = true := List.forall_mem_singleton.mpr rfl
  have hreads := Reads.token hgap hscan (reads_of_argumentShapes hshapes)
  have hrest : (c.advance 2).rest =
      [' '] ++ first :: (others ++ head.args) ++ ' ' :: '%' :: '}' :: more := by
    rw [Cursor.rest_advance, h, hname]
    simp
  have hdepth : balanced 0 ((Kind.ident (word.name .jinja)).shape
      (String.ofList (first :: others)) :: shapes) = true := hbalanced
  obtain ⟨tokens, htokens, hargs⟩ := tagTokens_of_reads hreads c.pos hdepth hrest
  have hhyphen : ¬(c.rest.drop 2).head? = some '-' := by simp [h]
  unfold construct tag
  simp only [if_neg hhyphen, htokens]
  refine ⟨_, rfl, ?_, ?_, rfl⟩
  · simp only [List.map_cons, hargs, Row.shapes, hshapes]
    rfl
  · have hlength : (word.name .jinja).length = others.length + 1 := by
      rw [← String.length_toList, hname, List.length_cons]
    simp only [hlength, List.length_append, List.length_cons, List.length_nil]
    omega

/-- No directive of a document is the one whose body is raw. -/
lemma isRawTag_of_shapes {row : Row} {tokens : List Token} {kind : TagKind}
    (h : tokens.map Token.shape = row.shapes .jinja) : isRawTag kind tokens = false := by
  unfold isRawTag
  split
  · rename_i start name stop
    cases row with
    | text line => cases h
    | comment indent content =>
      have hlength := congrArg List.length h
      cases hlength
    | directive word head =>
      have hname : name.kind = .ident (word.name .jinja) := by
        have hshape := congrArg (fun shapes => (shapes.drop 1).head?.map Shape.kind) h
        exact Option.some.inj hshape
      have hraw : ∀ word : Word, (word.name .jinja == "raw") = false := by decide
      rw [hname]
      simp only [hraw word, Bool.and_false]
  · rw [Bool.and_false]

/-- A step up to a tag that a line begins with reads that line whole. -/
lemma exists_cuts_of_construct {row : Row} {kind : TagKind} {found : Step} {sign : Char}
    {inner : List Char} (hc : (c.advance text.length).AtLineStart) (htext : IsLines text)
    (hindent : ∀ ch ∈ indent, Cursor.isIndent ch = true)
    (h : c.rest = text ++ indent ++ ('{' :: sign :: ' ' :: inner ++ '\n' :: more))
    (hsign : tagKind? sign = some kind) (hkind : kind ≠ .print)
    (hfound : construct kind (c.advance (text ++ indent).length) = .ok found)
    (hfills : Fills row found (inner.length + 3))
    (hprint : (row.print .jinja).length = indent.length + inner.length + 4) (hrest : c.rest ≠ []) :
    ∃ s, step false c hrest = .ok s ∧ Cuts .jinja text row s := by
  have hat := Cursor.rest_advance_of h
  have hsplit : splitAtTag c.rest = some (text ++ indent, kind) := by
    rw [h]
    apply splitAtTag_append fun ch hch =>
      (not_sign_of_isSign (htext.plain_append hindent ch hch)).2
    simp [splitAtTag, hsign]
  have hend : ((c.advance (text ++ indent).length).advance found.length).rest =
      [] ++ '\n' :: more := by
    rw [hfills.length]
    exact Cursor.rest_advance_of hat
  have halone : (c.advance (text ++ indent).length).standsAlone
      ((c.advance (text ++ indent).length).advance found.length) = some 1 := by
    unfold Cursor.standsAlone
    rw [if_pos (Cursor.leadsLine_advance_append hc h hindent),
      Cursor.lineEnd?_of hend (List.forall_mem_nil _)]
    rfl
  have hhyphen : decide (((c.advance (text ++ indent).length).rest.drop 2).head? = some '-') =
      false := by
    rw [hat]
    simp
  have hkept : kept (text ++ indent) false (some 1).isSome = text := htext.dropEndWhile hindent
  have hzero : c.advance 0 = c := rfl
  have hraw : isRawTag kind found.tokens = false := isRawTag_of_shapes hfills.shapes
  unfold step
  simp only [Bool.false_eq_true, if_false, hsplit, hzero, hfound, hraw, hkind, halone, hfills.strip,
    hhyphen, hkept, Option.getD_some]
  refine ⟨_, rfl, ?_, ?_, rfl⟩
  · simp only [List.map_append, shapes_textToken, hfills.shapes]
  · simp only [hfills.length, hprint, List.length_append]
    omega

/-- A step at the start of a line reads on through the next line that is no text. -/
theorem exists_cuts {row : Row} (hc : c.AtLineStart) (htext : IsLines text)
    (hproper : row.isProper = true) (hrow : ∀ line, row ≠ .text line)
    (h : c.rest = text ++ (row.print .jinja ++ more)) (hrest : c.rest ≠ []) :
    ∃ s, step false c hrest = .ok s ∧ Cuts .jinja text row s := by
  have hstart := htext.atLineStart hc h
  cases row with
  | text line => exact absurd rfl (hrow line)
  | comment indent content =>
    obtain ⟨hindent, -, hcontent⟩ := Row.isProper_comment hproper
    have h : c.rest = text ++ indent ++
        ('{' :: '#' :: ' ' :: (content ++ [' ', '#', '}']) ++ '\n' :: more) := by
      rw [h]
      simp [Row.print]
    have hat := Cursor.rest_advance_of h
    have hsplit : (c.advance (text ++ indent).length).rest =
        '{' :: '#' :: ' ' :: (content ++ ' ' :: '#' :: '}' :: '\n' :: more) := by
      rw [hat]
      simp
    obtain ⟨found, hfound, hfills⟩ := construct_comment hcontent hsplit
    refine exists_cuts_of_construct hstart htext hindent h rfl nofun hfound ?_ ?_ hrest
    · simpa using hfills
    · simp [Row.print]
      omega
  | directive word head =>
    obtain ⟨hindent, -⟩ := Row.isProper_directive hproper
    have h : c.rest = text ++ head.indent ++ ('{' :: '%' :: ' ' ::
        ((word.name .jinja).toList ++ (head.args ++ [' ', '%', '}'])) ++ '\n' :: more) := by
      rw [h]
      simp [Row.print]
    have hat := Cursor.rest_advance_of h
    have hsplit : (c.advance (text ++ head.indent).length).rest = '{' :: '%' :: ' ' ::
        ((word.name .jinja).toList ++ (head.args ++ ' ' :: '%' :: '}' :: '\n' :: more)) := by
      rw [hat]
      simp
    obtain ⟨found, hfound, hfills⟩ := construct_directive hproper hsplit
    refine exists_cuts_of_construct hstart htext hindent h rfl nofun hfound ?_ ?_ hrest
    · simpa [Nat.add_assoc, String.length_toList] using hfills
    · simp [Row.print]
      omega

end Stencil.Token.Jinja
