import Stencil.Proofs.LineStart

/-! How the native dialect cuts a line that is no text. -/
namespace Stencil.Token.Native

open Document

variable {c : Cursor} {text indent gap more : List Char} {m : Marker}

/-! ### Text before a sign -/

lemma literal_end (h : c.rest = []) : literal c = ([], 0, none) := by
  rw [literal.eq_def]
  split
  · rfl
  · rename_i hrest
    rw [h] at hrest
    cases hrest

lemma literal_marker {ch : Char} (h : c.rest = ch :: more) (hch : ch = '$' ∨ ch = '@')
    (hm : marker? c = some m) : literal c = ([], 0, some m) := by
  rw [literal.eq_def]
  split
  · rename_i hrest
    rw [h] at hrest
    cases hrest
  · rename_i hrest
    rw [h] at hrest
    cases hrest
    rw [if_pos hch, hm]

lemma literal_cons {ch : Char} (h : c.rest = ch :: more) (hch : ¬(ch = '$' ∨ ch = '@')) :
    literal c = (ch :: (literal (c.advance 1)).1, 1 + (literal (c.advance 1)).2.1,
      (literal (c.advance 1)).2.2) := by
  rw [literal.eq_def]
  split
  · rename_i hrest
    rw [h] at hrest
    cases hrest
  · rename_i hrest
    rw [h] at hrest
    cases hrest
    rw [if_neg hch]

/-- Text without signs is read as it stands. -/
lemma literal_append {next : Option Marker} (htext : ∀ ch ∈ text, isSign ch = false)
    (h : c.rest = text ++ more) (hnext : literal (c.advance text.length) = ([], 0, next)) :
    literal c = (text, text.length, next) := by
  induction text generalizing c with
  | nil => exact hnext
  | cons ch text ih =>
    obtain ⟨hch, htext⟩ := List.forall_mem_cons.mp htext
    have hrest : (c.advance 1).rest = text ++ more := by rw [Cursor.rest_advance, h]; rfl
    rw [List.length_cons, Nat.add_comm, Cursor.advance_add] at hnext
    rw [literal_cons h (not_sign_of_isSign hch).1, ih htext hrest hnext, List.length_cons,
      Nat.add_comm]

/-! ### Signs -/

/-- No word stands before the first sign of a line. -/
lemma before_of_leadsLine (h : c.leadsLine = true) :
    c.before.head?.any isIdentChar = false := by
  unfold Cursor.leadsLine at h
  cases hbefore : c.before with
  | nil => rfl
  | cons b before =>
    rw [hbefore, List.dropWhile_cons] at h
    have hb : b = ' ' ∨ b = '\t' ∨ b = '\n' := by
      by_cases hindent : Cursor.isIndent b = true
      · simp only [Cursor.isIndent, Bool.or_eq_true, beq_iff_eq] at hindent
        exact hindent.imp_right .inl
      · rw [if_neg hindent] at h
        exact .inr (.inr (by simpa using h))
    rcases hb with rfl | rfl | rfl
    · exact isIdentChar_stop rfl
    · exact (by decide : isIdentChar '\t' = false)
    · exact isIdentChar_stop rfl

lemma marker?_comment (hlead : c.leadsLine = true) (h : c.rest = '@' :: '#' :: more) :
    marker? c = some .lineComment := by
  unfold marker?
  rw [h]
  simp [before_of_leadsLine hlead]

lemma marker?_directive (hlead : c.leadsLine = true) {word : Word}
    (h : c.rest = '@' :: ((word.name .native).toList ++ more))
    (hmore : ∀ ch ∈ more.head?, isIdentChar ch = false) :
    marker? c = some (.directive (word.name .native)) := by
  obtain ⟨first, others, hname, hstart, hothers, hfirst, -⟩ := word.name_spelled .native
  have hhash : first ≠ '#' := by
    rintro rfl
    cases hstart
  have hrun : (others ++ more).takeWhile isIdentChar = others :=
    takeWhile_before hothers hmore
  have hword : String.ofList (first :: others) = word.name .native := by
    rw [← hname, String.ofList_toList]
  have hdirective : ∀ word : Word, directiveNames.contains (word.name .native) = true := by decide
  unfold marker?
  rw [h, hname]
  simp only [List.cons_append, before_of_leadsLine hlead, if_neg hhash, hstart, if_pos, hrun, hword,
    hdirective word]
  rfl

/-! ### Constructs -/

lemma onLine_of {n : Nat} (hlead : c.leadsLine = true)
    (hrest : (c.advance n).rest = gap ++ '\n' :: more)
    (hgap : ∀ ch ∈ gap, Cursor.isIndent ch = true) (tokens : List Token) (hn : 0 < n) :
    (onLine c tokens n hn).tokens = tokens ∧
      (onLine c tokens n hn).length = n + (gap.length + 1) ∧
      (onLine c tokens n hn).ownsIndent = true := by
  have halone : c.standsAlone (c.advance n) = some (gap.length + 1) := by
    unfold Cursor.standsAlone
    rw [if_pos hlead, Cursor.lineEnd?_of hrest hgap]
  unfold onLine
  split
  · rename_i h
    rw [halone] at h
    cases h
    exact ⟨rfl, rfl, rfl⟩
  · rename_i h
    rw [halone] at h
    cases h

/-! ### Arguments -/

lemma length_openAfter (stack : List OpenBracket) (pos : Position) (kind : Kind) :
    (openAfter stack pos kind).length = kind.depthAfter stack.length := by
  unfold openAfter Kind.depthAfter
  split <;> simp_all

lemma argumentTokens_end (h : c.rest = gap ++ '\n' :: more)
    (hgap : ∀ ch ∈ gap, Cursor.isIndent ch = true) :
    argumentTokens [] c = .ok ([(c.advance gap.length).token .directiveEnd 0], gap.length) := by
  have hblanks : c.blanks (!([] : List OpenBracket).isEmpty) = gap.length :=
    Cursor.blanks_of h hgap rfl rfl
  have hrest : (c.advance gap.length).rest = '\n' :: more := Cursor.rest_advance_of h
  rw [argumentTokens.eq_def]
  simp only [hblanks, hrest]
  rfl

lemma argumentTokens_token {stack : List OpenBracket} {ch : Char} {kind : Kind} {n m : Nat}
    {tokens : List Token} (h : c.rest = gap ++ ch :: more)
    (hgap : ∀ ch ∈ gap, Cursor.isIndent ch = true) (hscan : scan ch more = .ok (kind, n))
    (hmore : argumentTokens (openAfter stack (c.advance gap.length).pos kind)
      ((c.advance gap.length).advance (n + 1)) = .ok (tokens, m)) :
    argumentTokens stack c =
      .ok ((c.advance gap.length).token kind (n + 1) :: tokens, gap.length + (n + 1) + m) := by
  have hblanks := Cursor.blanks_of_scan h hgap hscan (!stack.isEmpty)
  obtain ⟨hrest, hnext, hlength⟩ := scanAt_behind h hblanks hscan
  have hch : ch ≠ '\n' := by
    rintro rfl
    exact absurd (isWhitespace_of_scan hscan) (by decide)
  rw [← hblanks] at hmore ⊢
  rw [argumentTokens.eq_def]
  simp only [hrest]
  rw [if_neg hch]
  split
  · rename_i hat
    cases hat.symm.trans hnext
  · rename_i hat
    cases hat.symm.trans hnext
    simp only [hlength, hmore]

/-- Arguments are read up to the end of the line. -/
theorem argumentTokens_of_reads {shapes : List Shape} (hreads : Reads text shapes)
    {stack : List OpenBracket} (hbalanced : balanced stack.length shapes = true)
    (h : c.rest = text ++ '\n' :: more) :
    ∃ tokens, argumentTokens stack c = .ok (tokens, text.length) ∧
      tokens.map Token.shape = shapes ++ [⟨.directiveEnd, none⟩] := by
  induction hreads generalizing c stack with
  | blank hgap =>
    obtain rfl : stack = [] := by simpa [balanced] using hbalanced
    exact ⟨_, argumentTokens_end h hgap, rfl⟩
  | @token gap word behind ch kind shapes hgap hscan _ ih =>
    have hscan := scan_append hscan (rfl : isStop '\n' = true) more
    rw [List.append_assoc, List.cons_append, List.append_assoc] at h
    rw [List.append_assoc] at hscan
    have hrest : (c.advance gap.length).rest = (ch :: word) ++ (behind ++ '\n' :: more) :=
      Cursor.rest_advance_of h
    simp only [balanced, Bool.and_eq_true] at hbalanced
    have hdepth :
        balanced (openAfter stack (c.advance gap.length).pos kind).length shapes = true := by
      rw [length_openAfter]
      exact hbalanced.2
    obtain ⟨tokens, hmore, hshapes⟩ := ih hdepth (Cursor.rest_advance_of hrest)
    have htokens := argumentTokens_token h hgap hscan hmore
    rw [← length_spaced] at htokens
    refine ⟨_, htokens, ?_⟩
    rw [List.map_cons, hshapes]
    exact congrArg (· :: _) (Cursor.shape_token hrest kind)

/-! ### Lines -/

/-- A construct that makes up the rest of a line. -/
structure Fills (row : Row) (found : Construct) (n : Nat) : Prop where
  shapes : found.tokens.map Token.shape = row.shapes .native
  length : found.length = n
  ownsIndent : found.ownsIndent = true

lemma fills_onLine {row : Row} {n : Nat} {hn : 0 < n} {tokens : List Token}
    (hlead : c.leadsLine = true) (hrest : (c.advance n).rest = gap ++ '\n' :: more)
    (hgap : ∀ ch ∈ gap, Cursor.isIndent ch = true)
    (hshapes : tokens.map Token.shape = row.shapes .native) :
    Fills row (onLine c tokens n hn) (n + (gap.length + 1)) := by
  obtain ⟨htokens, hlength, howns⟩ := onLine_of hlead hrest hgap tokens hn
  exact ⟨by rw [htokens, hshapes], hlength, howns⟩

lemma construct_comment {content : List Char} (hlead : c.leadsLine = true)
    (hcontent : ∀ ch ∈ content, ch ≠ '\n')
    (h : c.rest = ('@' :: '#' :: ' ' :: content) ++ '\n' :: more) :
    ∃ found, construct c .lineComment = .ok found ∧
      Fills (.comment indent content) found (content.length + 4) := by
  let n := 1 + ((c.rest.drop 1).takeWhile (· != '\n')).length
  have hn : n = ('@' :: '#' :: ' ' :: content).length := by
    have hline : ∀ ch ∈ '#' :: ' ' :: content, (ch != '\n') = true := by
      simpa using hcontent
    simp only [n]
    rw [h, List.cons_append, List.drop_one, List.tail_cons, takeWhile_run hline rfl, Nat.add_comm]
    rfl
  have hrest : (c.advance n).rest = [] ++ '\n' :: more := by
    rw [hn]
    exact Cursor.rest_advance_of h
  have hpos : 0 < n := by omega
  have hfills :
      Fills (.comment indent content) (onLine c [c.token .comment n] n hpos) (n + (0 + 1)) :=
    fills_onLine hlead hrest (List.forall_mem_nil _) rfl
  refine ⟨onLine c [c.token .comment n] n hpos, rfl, ?_⟩
  have hlength : content.length + 4 = n + (0 + 1) := by rw [hn]; rfl
  rw [hlength]
  exact hfills

lemma construct_directive {word : Word} {head : Heading} (hlead : c.leadsLine = true)
    (hproper : (Row.directive word head).isProper = true)
    (hbare : (Row.directive word head).isBare = true)
    (h : c.rest = ('@' :: (word.name .native).toList) ++ (head.args ++ '\n' :: more)) :
    ∃ found, construct c (.directive (word.name .native)) = .ok found ∧
      Fills (.directive word head) found
        (1 + (word.name .native).length + head.args.length + 1) := by
  obtain ⟨-, -, shapes, hshapes, hbalanced⟩ := Row.isProper_directive hproper
  have hkept : ∀ word : Word, ¬(word.name .native = "raw" ∨ word.name .native = "comment") := by
    decide
  have hrest : (c.advance (1 + (word.name .native).length)).rest = head.args ++ '\n' :: more := by
    rw [← String.length_toList, Nat.add_comm]
    exact Cursor.rest_advance_of h
  simp only [construct, if_neg (hkept word), directive]
  split
  · rename_i hname
    have hblank : ∀ ch ∈ head.args, Cursor.isIndent ch = true := by
      rw [Row.isBare, hname] at hbare
      simpa using hbare
    refine ⟨_, rfl, ?_⟩
    rw [Nat.add_assoc]
    apply fills_onLine hlead hrest hblank
    rw [Row.shapes, argumentShapes_of_blank hblank]
    rfl
  · have hdepth : balanced ([] : List OpenBracket).length shapes = true := hbalanced
    obtain ⟨tokens, htokens, hargs⟩ :=
      argumentTokens_of_reads (reads_of_argumentShapes hshapes) hdepth hrest
    rw [htokens]
    refine ⟨_, rfl, ?_⟩
    have hend : (c.advance (1 + (word.name .native).length + head.args.length)).rest =
        [] ++ '\n' :: more := by
      rw [Cursor.advance_add, Cursor.rest_advance_of hrest]
      rfl
    apply fills_onLine hlead hend (List.forall_mem_nil _)
    rw [List.map_append, hargs, Row.shapes, hshapes]
    rfl

/-- A step up to a sign that a line begins with reads that line whole. -/
lemma exists_cuts_of_marker {row : Row} {m : Marker} {found : Construct} {n : Nat}
    (htext : IsLines text) (hindent : ∀ ch ∈ indent, Cursor.isIndent ch = true)
    (h : c.rest = text ++ indent ++ '@' :: more)
    (hm : marker? (c.advance (text ++ indent).length) = some m)
    (hfound : construct (c.advance (text ++ indent).length) m = .ok found)
    (hfills : Fills row found n) (hprint : (row.print .native).length = indent.length + n)
    (hrest : c.rest ≠ []) : ∃ s, step c hrest = .ok s ∧ Cuts .native text row s := by
  have hliteral : literal c = (text ++ indent, (text ++ indent).length, some m) :=
    literal_append (htext.plain_append hindent) h
      (literal_marker (Cursor.rest_advance_of h) (.inr rfl) hm)
  unfold step
  rw [hliteral]
  simp only [hfound, hfills.ownsIndent, if_pos, htext.dropEndWhile hindent]
  refine ⟨_, rfl, ?_, ?_, rfl⟩
  · simp only [List.map_append, shapes_textToken, hfills.shapes]
  · simp only [hfills.length, hprint, List.length_append]
    omega

/-- A step at the start of a line reads on through the next line that is no text. -/
theorem exists_cuts {row : Row} (hc : c.AtLineStart) (htext : IsLines text)
    (hproper : row.isProper = true) (hbare : row.isBare = true) (hrow : ∀ line, row ≠ .text line)
    (h : c.rest = text ++ (row.print .native ++ more)) (hrest : c.rest ≠ []) :
    ∃ s, step c hrest = .ok s ∧ Cuts .native text row s := by
  have hstart := htext.atLineStart hc h
  cases row with
  | text line => exact absurd rfl (hrow line)
  | comment indent content =>
    obtain ⟨hindent, hcontent, -⟩ := Row.isProper_comment hproper
    have h : c.rest = text ++ indent ++ (('@' :: '#' :: ' ' :: content) ++ '\n' :: more) := by
      rw [h]
      simp [Row.print]
    have hat := Cursor.rest_advance_of h
    have hlead := Cursor.leadsLine_advance_append hstart h hindent
    obtain ⟨found, hfound, hfills⟩ := construct_comment hlead hcontent hat
    refine exists_cuts_of_marker htext hindent h (marker?_comment hlead hat) hfound hfills ?_ hrest
    simp [Row.print]
  | directive word head =>
    obtain ⟨hindent, hfirst, -⟩ := Row.isProper_directive hproper
    have h : c.rest = text ++ head.indent ++
        (('@' :: (word.name .native).toList) ++ (head.args ++ '\n' :: more)) := by
      rw [h]
      simp [Row.print]
    have hat := Cursor.rest_advance_of h
    have hlead := Cursor.leadsLine_advance_append hstart h hindent
    have hend : ∀ ch ∈ (head.args ++ '\n' :: more).head?, isIdentChar ch = false := by
      intro ch hch
      rw [List.head?_append] at hch
      cases hargs : head.args.head? with
      | none =>
        rw [hargs] at hch
        cases hch
        decide
      | some b =>
        rw [hargs] at hch
        cases hch
        exact isIdentChar_of_isIndent (hfirst _ hargs)
    obtain ⟨found, hfound, hfills⟩ := construct_directive hlead hproper hbare hat
    refine exists_cuts_of_marker htext hindent h (marker?_directive hlead hat hend) hfound hfills ?_
      hrest
    simp only [Row.print, List.length_append, List.length_cons, List.length_nil,
      String.length_toList]
    omega

end Stencil.Token.Native
