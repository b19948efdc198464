import Stencil.Proofs.JinjaRows
import Stencil.Proofs.NativeRows

/-! The tokens of a document as a dialect writes it. Both dialects have the same ones, up to the
words of closers. -/
namespace Stencil.Document

open Token TokenStream

variable {c : Cursor} {text : List Char}

/-- A step that reads a line of a document that is no text. -/
lemma exists_step (d : Dialect) {row : Row} {more : List Char} (hc : c.AtLineStart)
    (htext : IsLines text) (hproper : row.isProper = true) (hbare : row.isBare = true)
    (hrow : ∀ line, row ≠ .text line) (h : c.rest = text ++ (row.print d ++ more))
    (hrest : c.rest ≠ []) : ∃ s, step d false c hrest = .ok s ∧ Cuts d text row s := by
  cases d with
  | native => exact Native.exists_cuts hc htext hproper hbare hrow h hrest
  | jinja => exact Jinja.exists_cuts hc htext hproper hrow h hrest

/-- The step that reads the end of a document. -/
lemma exists_last_step (d : Dialect) (htext : IsLines text) (h : c.rest = text)
    (hrest : c.rest ≠ []) :
    ∃ s, step d false c hrest = .ok s ∧ s.tokens.map Token.shape = textShapes text ∧
      s.length = text.length ∧ s.strip = false := by
  have happend : c.rest = text ++ [] := by rw [h, List.append_nil]
  cases d with
  | native =>
    have hliteral : Native.literal c = (text, text.length, none) :=
      Native.literal_append htext.plain happend
        (Native.literal_end (Cursor.rest_advance_of happend))
    unfold step Native.step
    simp only [hliteral]
    exact ⟨_, rfl, shapes_textToken _ _ _, congrArg List.length h, rfl⟩
  | jinja =>
    have hsplit : Jinja.splitAtTag c.rest = none := by
      rw [h]
      exact Jinja.splitAtTag_none fun ch hch => (not_sign_of_isSign (htext.plain ch hch)).2
    have hzero : c.advance 0 = c := rfl
    unfold step Jinja.step
    simp only [Bool.false_eq_true, if_false, hzero, hsplit]
    exact ⟨_, rfl, by rw [shapes_textToken, h], congrArg List.length h, rfl⟩

lemma Row.exists_print (d : Dialect) (row : Row) : ∃ body, row.print d = body ++ ['\n'] := by
  cases row with
  | text line => exact ⟨line, rfl⟩
  | comment indent content => cases d <;> exact ⟨_, rfl⟩
  | directive word head => cases d <;> exact ⟨_, rfl⟩

lemma tokensFrom_end (d : Dialect) (h : c.rest = []) : tokensFrom d false c = ([], none) := by
  rw [tokensFrom, dif_pos h]

lemma tokensFrom_step {d : Dialect} {s : Step} {tokens : List Token} {fault : Option LexError}
    (hrest : c.rest ≠ []) (hs : step d false c hrest = .ok s) (hstrip : s.strip = false)
    (hmore : tokensFrom d false (c.advance s.length) = (tokens, fault)) :
    tokensFrom d false c = (s.tokens ++ tokens, fault) := by
  rw [tokensFrom, dif_neg hrest]
  simp only [hs, hstrip, hmore]

/-- Whole lines are read one after the other, with the text before each that is none. -/
theorem tokensFrom_rows (d : Dialect) {rows : List Row}
    (hrows : ∀ row ∈ rows, row.isProper = true ∧ row.isBare = true) (hc : c.AtLineStart)
    (htext : IsLines text) (h : c.rest = text ++ rows.flatMap (Row.print d)) :
    ∃ tokens, tokensFrom d false c = (tokens, none) ∧
      tokens.map Token.shape = outline d text rows := by
  induction rows generalizing c text with
  | nil =>
    rw [List.flatMap_nil, List.append_nil] at h
    by_cases hempty : c.rest = []
    · refine ⟨[], tokensFrom_end d hempty, ?_⟩
      rw [← h, hempty]
      rfl
    · obtain ⟨s, hs, hshapes, hlength, hstrip⟩ := exists_last_step d htext h hempty
      have hend : tokensFrom d false (c.advance s.length) = ([], none) := by
        apply tokensFrom_end
        rw [hlength, Cursor.rest_advance, h, List.drop_length]
      refine ⟨_, tokensFrom_step hempty hs hstrip hend, ?_⟩
      rw [List.append_nil, hshapes]
      rfl
  | cons row more ih =>
    obtain ⟨⟨hproper, hbare⟩, hmore⟩ := List.forall_mem_cons.mp hrows
    by_cases hrow : ∀ line, row ≠ .text line
    · obtain ⟨body, hbody⟩ := row.exists_print d
      have hrest : c.rest ≠ [] := by
        rw [h, List.flatMap_cons, hbody]
        simp
      rw [List.flatMap_cons] at h
      obtain ⟨s, hs, hcuts⟩ := exists_step d hc htext hproper hbare hrow h hrest
      have hline : c.rest = (text ++ body) ++ '\n' :: more.flatMap (Row.print d) := by
        rw [h, hbody]
        simp
      have hlength : s.length = (text ++ body).length + 1 := by
        rw [hcuts.length, hbody, List.length_append, List.length_append, List.length_singleton,
          Nat.add_assoc]
      have hnext : (c.advance s.length).rest = [] ++ more.flatMap (Row.print d) := by
        rw [hlength, Cursor.advance_add, Cursor.rest_advance, Cursor.rest_advance_of hline]
        rfl
      have hstart : (c.advance s.length).AtLineStart := by
        rw [hlength]
        exact Cursor.atLineStart_of_newline hline
      obtain ⟨tokens, htokens, hshapes⟩ := ih hmore hstart isLines_nil hnext
      refine ⟨_, tokensFrom_step hrest hs hcuts.strip htokens, ?_⟩
      rw [List.map_append, hcuts.shapes, hshapes]
      cases row with
      | text line => exact absurd rfl (hrow line)
      | comment indent content => rfl
      | directive word head => rfl
    · -- A line of text waits for the token that it is a part of.
      obtain ⟨line, rfl⟩ : ∃ line, row = .text line := by simpa using hrow
      have hlonger : c.rest = (text ++ line ++ ['\n']) ++ more.flatMap (Row.print d) := by
        rw [h, List.flatMap_cons]
        simp [Row.print]
      exact ih hmore hc (htext.append hproper) hlonger

/-- A document is cut into the tokens of its lines, and nothing in it is wrong. -/
theorem exists_ofSource (d : Dialect) {items : List Item}
    (hrows : ∀ row ∈ rows items, row.isProper = true ∧ row.isBare = true) :
    ∃ tokens stop, TokenStream.ofSource (some d) (print d items) = .ok ⟨d, tokens, none, stop⟩ ∧
      tokens.map Token.shape = outline d [] (rows items) := by
  have hstart : (Cursor.start (print d items).toList).AtLineStart := nofun
  have hrest : (Cursor.start (print d items).toList).rest =
      [] ++ (rows items).flatMap (Row.print d) := String.toList_ofList
  obtain ⟨tokens, htokens, hshapes⟩ := tokensFrom_rows d hrows hstart isLines_nil hrest
  refine ⟨tokens, Position.start.after (print d items).toList, ?_, hshapes⟩
  unfold TokenStream.ofSource TokenStream.ofText Dialect.resolve
  simp only [htokens]

end Stencil.Document
