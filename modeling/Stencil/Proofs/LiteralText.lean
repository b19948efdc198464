import Stencil.Proofs.Braced
import Stencil.Proofs.Outline

/-! Literal text and interpolations of variables as both dialects write them, and the tokens that
they are cut into. -/
namespace Stencil

/-- Literal text, or the interpolation of a variable. -/
inductive Segment where
  | literal (text : String)
  | reference (name : String)

namespace Segment

open Token TokenStream

/-- How the native dialect writes a character of a text. -/
def doubled (ch : Char) : List Char := if ch = '$' ∨ ch = '@' then [ch, ch] else [ch]

/-- How a text is written so that it stands for itself. -/
def spell (d : Dialect) (text : List Char) : List Char :=
  match d with
  | .native => text.flatMap doubled
  | .jinja => text

def print (d : Dialect) : Segment → List Char
  | .literal text => spell d text.toList
  | .reference name =>
    match d with
    | .native => '$' :: '{' :: ' ' :: (name.toList ++ [' ', '}'])
    | .jinja => '{' :: '{' :: ' ' :: (name.toList ++ [' ', '}', '}'])

/-- Whether the dialect can write the segment: names are no keywords, and in the jinja dialect no
brace opens in literal text. -/
def isProper (d : Dialect) : Segment → Bool
  | .literal text => d = .native || !text.toList.contains '{'
  | .reference name => isName name

/-- The kinds of the tokens of a segment. -/
def kinds : Segment → List Kind
  | .literal text => [.text text]
  | .reference name => [.printStart, .ident name, .printEnd]

/-- The segment of a text, unless that is empty. -/
def ofText (text : List Char) : List Segment :=
  if text.isEmpty then [] else [.literal (String.ofList text)]

/-- Segments behind a text, where literals that meet are one. -/
def joined : (text : List Char) → List Segment → List Segment
  | text, [] => ofText text
  | text, .literal more :: segments => joined (text ++ more.toList) segments
  | text, .reference name :: segments => ofText text ++ .reference name :: joined [] segments

variable {c : Cursor} {text more : List Char} {name : String} {ch : Char}

lemma spell_append (d : Dialect) (s t : List Char) : spell d (s ++ t) = spell d s ++ spell d t := by
  cases d with
  | native => exact List.flatMap_append
  | jinja => rfl

lemma eq_nil_of_spell {d : Dialect} (h : spell d text = []) : text = [] := by
  cases d with
  | jinja => exact h
  | native =>
    cases text with
    | nil => rfl
    | cons ch text =>
      have hdoubled : doubled ch = [] := (List.append_eq_nil_iff.mp h).1
      unfold doubled at hdoubled
      split at hdoubled <;> cases hdoubled

lemma kinds_textToken (c : Cursor) (text : List Char) (n : Nat) :
    (c.textToken text n).map Token.kind = (ofText text).flatMap kinds := by
  unfold Cursor.textToken ofText
  split
  · rfl
  · rfl

/-- A step that reads a text and the interpolation of a variable behind it. -/
structure Cuts (d : Dialect) (text : List Char) (name : String) (s : Step) : Prop where
  kinds : s.tokens.map Token.kind = (ofText text).flatMap kinds ++ (reference name).kinds
  length : s.length = (spell d text ++ (reference name).print d).length
  strip : s.strip = false

/-! ### The native dialect -/

/-- A sign in front of the same sign begins nothing, wherever it stands. -/
lemma marker?_doubled (h : c.rest = ch :: ch :: more) (hch : ch = '$' ∨ ch = '@') :
    Native.marker? c = none := by
  unfold Native.marker?
  rw [h]
  rcases hch with rfl | rfl
  · rfl
  · split
    · rename_i hrest
      cases hrest
    · rename_i hrest
      cases hrest
      split
      · rfl
      · rfl
    · rfl

/-- A character is read with the sign behind it that is doubled. -/
lemma literal_doubled (h : c.rest = doubled ch ++ more) :
    Native.literal c = (ch :: (Native.literal (c.advance (doubled ch).length)).1,
      (doubled ch).length + (Native.literal (c.advance (doubled ch).length)).2.1,
      (Native.literal (c.advance (doubled ch).length)).2.2) := by
  by_cases hch : ch = '$' ∨ ch = '@'
  · have hdoubled : doubled ch = [ch, ch] := if_pos hch
    rw [hdoubled] at h ⊢
    have h : c.rest = ch :: ch :: more := h
    rw [Native.literal.eq_def]
    split
    · rename_i hrest
      rw [h] at hrest
      cases hrest
    · rename_i hrest
      rw [h] at hrest
      cases hrest
      rw [if_pos hch, marker?_doubled h hch]
      simp only [List.head?_cons, if_pos]
      rfl
  · have hdoubled : doubled ch = [ch] := if_neg hch
    rw [hdoubled] at h ⊢
    exact Native.literal_cons h hch

/-- A text with its signs doubled is read as that text. -/
lemma literal_spell {next : Option Native.Marker} (h : c.rest = spell .native text ++ more)
    (hnext : Native.literal (c.advance (spell .native text).length) = ([], 0, next)) :
    Native.literal c = (text, (spell .native text).length, next) := by
  induction text generalizing c with
  | nil => exact hnext
  | cons ch text ih =>
    have hspell : spell .native (ch :: text) = doubled ch ++ spell .native text :=
      List.flatMap_cons
    rw [hspell] at h hnext ⊢
    rw [List.append_assoc] at h
    rw [List.length_append, Cursor.advance_add] at hnext
    rw [literal_doubled h, ih (Cursor.rest_advance_of h) hnext, List.length_append]

lemma construct_native (hname : isName name = true)
    (h : c.rest = (reference name).print .native ++ more) :
    ∃ found, Native.construct c .braced = .ok found ∧
      found.IsInline (reference name).kinds ((reference name).print .native).length := by
  have hgap : IsBlank [' '] := List.forall_mem_singleton.mpr (by decide)
  have hinside : Native.Inside ([' '] ++ '}' :: more) 0 ([' '] ++ name.toList) [.ident name] 0 :=
    .word hname hgap (breaks_cons (by decide))
  have hrest : c.rest = '$' :: '{' :: (([' '] ++ name.toList) ++ ([' '] ++ '}' :: more)) := by
    rw [h]
    simp [print]
  have hlength : ((reference name).print .native).length =
      ([' '] ++ name.toList).length + [' '].length + 3 := by
    simp only [print, List.length_append, List.length_cons, List.length_nil]
    omega
  rw [hlength]
  exact Native.construct_of_inside hinside hgap hrest

lemma step_native (hname : isName name = true)
    (h : c.rest = spell .native text ++ ((reference name).print .native ++ more))
    (hrest : c.rest ≠ []) : ∃ s, step .native false c hrest = .ok s ∧ Cuts .native text name s := by
  have hopener := Cursor.rest_advance_of h
  obtain ⟨found, hfound, hinline⟩ := construct_native hname hopener
  have hliteral : Native.literal c = (text, (spell .native text).length, some .braced) :=
    literal_spell h (Native.literal_marker hopener (.inl rfl) (Native.marker?_braced hopener))
  unfold step Native.step
  simp only [hliteral, hfound, hinline.ownsIndent]
  refine ⟨_, rfl, ?_, ?_, rfl⟩
  · simp only [List.map_append, hinline.kinds, kinds_textToken, Bool.false_eq_true, if_false]
  · simp only [hinline.length, List.length_append]

/-! ### The jinja dialect -/

lemma tagTokens_reference (hname : isName name = true)
    (h : c.rest = ' ' :: (name.toList ++ ' ' :: '}' :: '}' :: more)) (opened : Position) :
    ∃ tokens, Jinja.tagTokens .print opened 0 c = .ok (tokens, name.toList.length + 4, false) ∧
      tokens.map Token.kind = [.ident name, .printEnd] := by
  obtain ⟨first, others, hspelled, hstart, hothers, hword⟩ := exists_of_isName hname
  rw [hspelled] at h ⊢
  have hgap : ∀ ch ∈ [' '], Cursor.isIndent ch = true := List.forall_mem_singleton.mpr rfl
  have hscan : scan first (others ++ ' ' :: '}' :: '}' :: more) =
      .ok (.ident name, others.length) := by
    rw [scan_word hstart hothers (breaks_cons (by decide)), hword]
  have hbehind : ((c.advance 1).advance (others.length + 1)).rest =
      [' '] ++ '}' :: '}' :: more := by
    rw [Cursor.rest_advance, Cursor.rest_advance, h]
    simp
  have hopen : Jinja.closerAhead? .print (first :: (others ++ ' ' :: '}' :: '}' :: more)) =
      none := by
    have hhyphen := ne_of_isIdentStart hstart (by decide : isIdentStart '-' = false)
    have hbrace := ne_of_isIdentStart hstart (by decide : isIdentStart '}' = false)
    simp [Jinja.closerAhead?, Jinja.TagKind.closer, List.isPrefixOf, hhyphen.symm, hbrace.symm]
  have htokens : Jinja.tagTokens .print opened 0 c = _ :=
    @Jinja.tagTokens_token _ [' '] _ _ _ _ _ _ _ _ _ _ h hgap hscan (fun _ => hopen)
      (Jinja.tagTokens_end hbehind rfl hgap opened)
  have hlength : [' '].length + (others.length + 1) + ([' '].length + 2) =
      (first :: others).length + 4 := by
    simp only [List.length_cons, List.length_nil]
    omega
  rw [hlength] at htokens
  exact ⟨_, htokens, rfl⟩

lemma construct_jinja (hname : isName name = true)
    (h : c.rest = (reference name).print .jinja ++ more) :
    ∃ found, Jinja.construct .print c = .ok found ∧
      found.tokens.map Token.kind = (reference name).kinds ∧
      found.length = ((reference name).print .jinja).length ∧ found.strip = false := by
  have hrest : (c.advance 2).rest = ' ' :: (name.toList ++ ' ' :: '}' :: '}' :: more) := by
    rw [Cursor.rest_advance, h]
    simp [print]
  have hhyphen : ¬(c.rest.drop 2).head? = some '-' := by simp [h, print]
  obtain ⟨tokens, htokens, hkinds⟩ := tagTokens_reference hname hrest c.pos
  unfold Jinja.construct Jinja.tag
  simp only [if_neg hhyphen, htokens]
  refine ⟨_, rfl, congrArg (Kind.printStart :: ·) hkinds, ?_, rfl⟩
  simp only [print, List.length_append, List.length_cons, List.length_nil]
  omega

lemma step_jinja (hname : isName name = true) (htext : ∀ ch ∈ text, ch ≠ '{')
    (h : c.rest = text ++ ((reference name).print .jinja ++ more)) (hrest : c.rest ≠ []) :
    ∃ s, step .jinja false c hrest = .ok s ∧ Cuts .jinja text name s := by
  have hopener := Cursor.rest_advance_of h
  have hsplit : Jinja.splitAtTag c.rest = some (text, .print) := by
    rw [h]
    exact Jinja.splitAtTag_append htext rfl
  obtain ⟨found, hfound, hkinds, hlength, hstrip⟩ := construct_jinja hname hopener
  have hhyphen : decide (((c.advance text.length).rest.drop 2).head? = some '-') = false := by
    rw [hopener]
    simp [print]
  have hzero : c.advance 0 = c := rfl
  have hraw : Jinja.isRawTag .print found.tokens = false := rfl
  unfold step Jinja.step
  simp only [Bool.false_eq_true, if_false, hsplit, hzero, hfound, hraw, if_pos, hhyphen, hstrip]
  refine ⟨_, rfl, ?_, ?_, rfl⟩
  · simp only [List.map_append, hkinds, kinds_textToken]
    rfl
  · simp only [hlength, spell, List.length_append]
    simp

/-! ### Whole texts -/

/-- The dialect can write the text: in the jinja dialect no brace opens in it. -/
def IsPlain (d : Dialect) (text : List Char) : Prop := d = .jinja → ∀ ch ∈ text, ch ≠ '{'

lemma isPlain_nil {d : Dialect} : IsPlain d [] := fun _ => List.forall_mem_nil _

lemma IsPlain.append {d : Dialect} {literal : String} (h : IsPlain d text)
    (hproper : (Segment.literal literal).isProper d = true) :
    IsPlain d (text ++ literal.toList) := by
  rintro rfl
  refine List.forall_mem_append.mpr ⟨h rfl, ?_⟩
  rintro ch hch rfl
  simp [isProper, hch] at hproper

lemma exists_step (d : Dialect) (hname : isName name = true) (htext : IsPlain d text)
    (h : c.rest = spell d text ++ ((reference name).print d ++ more)) (hrest : c.rest ≠ []) :
    ∃ s, step d false c hrest = .ok s ∧ Cuts d text name s := by
  cases d with
  | native => exact step_native hname h hrest
  | jinja => exact step_jinja hname (htext rfl) h hrest

/-- The step that reads a text up to the end. -/
lemma exists_last_step (d : Dialect) (htext : IsPlain d text) (h : c.rest = spell d text)
    (hrest : c.rest ≠ []) :
    ∃ s, step d false c hrest = .ok s ∧ s.tokens.map Token.kind = (ofText text).flatMap kinds ∧
      s.length = c.rest.length ∧ s.strip = false := by
  cases d with
  | native =>
    have happend : c.rest = spell .native text ++ [] := by rw [h, List.append_nil]
    have hliteral : Native.literal c = (text, (spell .native text).length, none) :=
      literal_spell happend (Native.literal_end (Cursor.rest_advance_of happend))
    unfold step Native.step
    simp only [hliteral]
    exact ⟨_, rfl, kinds_textToken _ _ _, rfl, rfl⟩
  | jinja =>
    have hsplit : Jinja.splitAtTag c.rest = none := by
      rw [h]
      exact Jinja.splitAtTag_none (htext rfl)
    have hzero : c.advance 0 = c := rfl
    unfold step Jinja.step
    simp only [Bool.false_eq_true, if_false, hzero, hsplit]
    refine ⟨_, rfl, ?_, rfl, rfl⟩
    rw [kinds_textToken, h]
    rfl

/-- Segments behind a text are cut into the tokens of both, and nothing in them is wrong. -/
theorem tokensFrom_segments (d : Dialect) {segments : List Segment}
    (hproper : ∀ s ∈ segments, s.isProper d = true) (htext : IsPlain d text)
    (h : c.rest = spell d text ++ segments.flatMap (print d)) :
    ∃ tokens, tokensFrom d false c = (tokens, none) ∧
      tokens.map Token.kind = (joined text segments).flatMap kinds := by
  induction segments generalizing c text with
  | nil =>
    rw [List.flatMap_nil, List.append_nil] at h
    by_cases hrest : c.rest = []
    · obtain rfl : text = [] := eq_nil_of_spell (h.symm.trans hrest)
      exact ⟨[], Document.tokensFrom_end d hrest, rfl⟩
    · obtain ⟨s, hs, hkinds, hlength, hstrip⟩ := exists_last_step d htext h hrest
      have hend : tokensFrom d false (c.advance s.length) = ([], none) := by
        apply Document.tokensFrom_end
        rw [hlength, Cursor.rest_advance, List.drop_length]
      refine ⟨_, Document.tokensFrom_step hrest hs hstrip hend, ?_⟩
      rw [List.append_nil]
      exact hkinds
  | cons segment segments ih =>
    obtain ⟨hsegment, hsegments⟩ := List.forall_mem_cons.mp hproper
    rw [List.flatMap_cons] at h
    cases segment with
    | literal more =>
      -- A literal waits for the token that it is a part of.
      rw [print, ← List.append_assoc, ← spell_append] at h
      exact ih hsegments (htext.append hsegment) h
    | reference name =>
      have hrest : c.rest ≠ [] := by
        rw [h]
        cases d <;> simp [print]
      obtain ⟨s, hs, hcuts⟩ := exists_step d hsegment htext h hrest
      have hnext : (c.advance s.length).rest = spell d [] ++ segments.flatMap (print d) := by
        rw [← List.append_assoc] at h
        rw [hcuts.length, Cursor.rest_advance_of h]
        cases d <;> rfl
      obtain ⟨tokens, htokens, hkinds⟩ := ih hsegments isPlain_nil hnext
      refine ⟨_, Document.tokensFrom_step hrest hs hcuts.strip htokens, ?_⟩
      rw [List.map_append, hcuts.kinds, hkinds, joined, List.flatMap_append, List.flatMap_cons,
        List.append_assoc]

end Segment

end Stencil
