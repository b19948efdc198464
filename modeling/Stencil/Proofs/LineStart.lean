import Stencil.Proofs.ArgumentText

/-! Reading templates line by line: where a line begins, what is alone on it, and the shapes of the
tokens on it. -/
namespace Stencil

namespace Cursor

variable {c : Cursor} {text indent gap more : List Char}

lemma advance_add (n m : Nat) (c : Cursor) : c.advance (n + m) = (c.advance n).advance m := by
  induction n generalizing c with
  | zero => rw [Nat.zero_add, advance]
  | succ n ih =>
    rw [Nat.add_right_comm, advance, advance]
    cases hrest : c.rest with
    | nil =>
      cases m with
      | zero => rfl
      | succ m => simp only [advance, hrest]
    | cons ch rest => exact ih _

lemma rest_advance_of (h : c.rest = text ++ more) : (c.advance text.length).rest = more := by
  rw [rest_advance, h, List.drop_left]

lemma before_advance_of (h : c.rest = text ++ more) :
    (c.advance text.length).before = text.reverse ++ c.before := by
  induction text generalizing c with
  | nil => rfl
  | cons ch text ih =>
    have hstep : c.advance (text.length + 1) = Cursor.advance text.length
        ⟨ch :: c.before, text ++ more, c.offset + 1, c.pos.advance ch⟩ := by
      rw [advance, h]
      rfl
    rw [List.length_cons, hstep, ih rfl]
    simp

/-- The place is the start of the text, or a line ends before it. -/
def AtLineStart (c : Cursor) : Prop := ∀ ch ∈ c.before.head?, ch = '\n'

lemma atLineStart_of_newline (h : c.rest = text ++ '\n' :: more) :
    (c.advance (text.length + 1)).AtLineStart := by
  have hline : c.rest = (text ++ ['\n']) ++ more := by rw [h]; simp
  have hbefore := before_advance_of hline
  rw [List.length_append, List.length_singleton] at hbefore
  intro ch hch
  rw [hbefore] at hch
  simpa [eq_comm] using hch

lemma dropWhile_isIndent_of_head {text : List Char} (h : ∀ ch ∈ text.head?, ch = '\n') :
    text.dropWhile isIndent = text := by
  cases text with
  | nil => rfl
  | cons ch text =>
    obtain rfl : ch = '\n' := h ch rfl
    rfl

lemma leadsLine_advance (hc : c.AtLineStart) (h : c.rest = indent ++ more)
    (hindent : ∀ ch ∈ indent, isIndent ch = true) :
    (c.advance indent.length).leadsLine = true := by
  have hskip : (indent.reverse ++ c.before).dropWhile isIndent = c.before := by
    rw [List.dropWhile_append_of_pos (by simpa using hindent), dropWhile_isIndent_of_head hc]
  unfold leadsLine
  rw [before_advance_of h, hskip]
  split
  · rfl
  · rename_i ch rest hbefore
    have := hc ch (by rw [hbefore]; rfl)
    simpa using this

/-- Behind whole lines and indentation the place still leads its line. -/
lemma leadsLine_advance_append (hc : (c.advance text.length).AtLineStart)
    (h : c.rest = text ++ indent ++ more) (hindent : ∀ ch ∈ indent, isIndent ch = true) :
    (c.advance (text ++ indent).length).leadsLine = true := by
  rw [List.append_assoc] at h
  rw [List.length_append, advance_add]
  exact leadsLine_advance hc (rest_advance_of h) hindent

lemma isLineBlank_of_isIndent {ch : Char} (h : isIndent ch = true) : isLineBlank ch = true := by
  simp only [isIndent, isLineBlank, Bool.or_eq_true] at h ⊢
  exact .inl h

lemma lineEnd?_of (h : c.rest = gap ++ '\n' :: more) (hgap : ∀ ch ∈ gap, isIndent ch = true) :
    c.lineEnd? = some (gap.length + 1) := by
  have hrun : (gap ++ '\n' :: more).takeWhile isLineBlank = gap :=
    Token.takeWhile_run (fun ch hch => isLineBlank_of_isIndent (hgap ch hch)) (by decide) more
  unfold lineEnd?
  simp only [h, hrun, List.drop_left, if_pos]

/-- The blanks before a character that is none of those skipped. -/
lemma blanks_of {ch : Char} {acrossLines : Bool} (h : c.rest = gap ++ ch :: more)
    (hgap : ∀ ch ∈ gap, isIndent ch = true) (hline : isLineBlank ch = false)
    (hch : (acrossLines && Unicode.isWhitespace ch) = false) :
    c.blanks acrossLines = gap.length := by
  unfold blanks
  rw [h, Token.takeWhile_run]
  · intro b hb
    rw [isLineBlank_of_isIndent (hgap b hb), Bool.true_or]
  · rw [hline, hch, Bool.or_false]

lemma isLineBlank_of_not_isWhitespace {ch : Char} (h : Unicode.isWhitespace ch = false) :
    isLineBlank ch = false := by
  by_contra hblank
  simp only [isLineBlank, Bool.not_eq_false, Bool.or_eq_true, beq_iff_eq] at hblank
  rcases hblank with (rfl | rfl) | rfl <;> exact absurd h (by decide)

/-- The blanks before a token. -/
lemma blanks_of_scan {ch : Char} {r : Token.Kind × Nat} (h : c.rest = gap ++ ch :: more)
    (hgap : ∀ ch ∈ gap, isIndent ch = true) (hscan : Token.scan ch more = .ok r)
    (acrossLines : Bool) : c.blanks acrossLines = gap.length := by
  have hch := Token.isWhitespace_of_scan hscan
  exact blanks_of h hgap (isLineBlank_of_not_isWhitespace hch) (by rw [hch, Bool.and_false])

lemma shape_token (h : c.rest = text ++ more) (kind : Token.Kind) :
    (c.token kind text.length).shape = kind.shape (String.ofList text) := by
  unfold token Token.shape
  rw [h, List.take_left]

end Cursor

namespace Document

open Token

lemma isIdentChar_of_isIndent {c : Char} (h : Cursor.isIndent c = true) :
    isIdentChar c = false := by
  simp only [Cursor.isIndent, Bool.or_eq_true, beq_iff_eq] at h
  rcases h with rfl | rfl <;> decide

lemma isSign_of_isIndent {c : Char} (h : Cursor.isIndent c = true) : isSign c = false := by
  simp only [Cursor.isIndent, Bool.or_eq_true, beq_iff_eq] at h
  rcases h with rfl | rfl <;> rfl

lemma not_sign_of_isSign {c : Char} (h : isSign c = false) :
    ¬(c = '$' ∨ c = '@') ∧ c ≠ '{' := by
  refine ⟨?_, ?_⟩
  · rintro (rfl | rfl) <;> cases h
  · rintro rfl
    cases h

lemma Row.isProper_comment {indent content : List Char}
    (h : (Row.comment indent content).isProper = true) :
    (∀ c ∈ indent, Cursor.isIndent c = true) ∧ (∀ c ∈ content, c ≠ '\n') ∧
      Text.occursIn ['#', '}'] content = false := by
  simp only [Row.isProper, Bool.and_eq_true, List.all_eq_true, bne_iff_ne, Bool.not_eq_true'] at h
  exact ⟨h.1.1, h.1.2, h.2⟩

lemma Row.isProper_directive {word : Word} {head : Heading}
    (h : (Row.directive word head).isProper = true) :
    (∀ c ∈ head.indent, Cursor.isIndent c = true) ∧
      (∀ c ∈ head.args.head?, Cursor.isIndent c = true) ∧
      ∃ shapes, argumentShapes head.args = some shapes ∧ balanced 0 shapes = true := by
  simp only [Row.isProper, Bool.and_eq_true, List.all_eq_true] at h
  obtain ⟨⟨⟨hindent, hhead⟩, -⟩, hargs⟩ := h
  refine ⟨hindent, fun c hc => ?_, (Option.any_eq_true _ _).mp hargs⟩
  rw [Option.mem_def] at hc
  rw [hc] at hhead
  exact hhead

/-- Text of whole lines without signs. -/
structure IsLines (text : List Char) : Prop where
  plain : ∀ c ∈ text, isSign c = false
  ends : ∀ c ∈ text.getLast?, c = '\n'

lemma IsLines.plain_append {text indent : List Char} (h : IsLines text)
    (hindent : ∀ c ∈ indent, Cursor.isIndent c = true) :
    ∀ c ∈ text ++ indent, isSign c = false :=
  List.forall_mem_append.mpr ⟨h.plain, fun c hc => isSign_of_isIndent (hindent c hc)⟩

lemma isLines_nil : IsLines [] := ⟨List.forall_mem_nil _, nofun⟩

lemma IsLines.append {text line : List Char} (h : IsLines text)
    (hline : (Row.text line).isProper = true) : IsLines (text ++ line ++ ['\n']) where
  plain := by
    simp only [Row.isProper, List.all_eq_true, Bool.and_eq_true, Bool.not_eq_true'] at hline
    simp only [List.forall_mem_append, List.forall_mem_singleton]
    exact ⟨⟨h.plain, fun c hc => (hline c hc).1⟩, by decide⟩
  ends := by
    rw [List.getLast?_concat]
    rintro _ ⟨⟩
    rfl

/-- Before a directive that is alone on its line the indentation is dropped. -/
lemma IsLines.dropEndWhile {text indent : List Char} (h : IsLines text)
    (hindent : ∀ c ∈ indent, Cursor.isIndent c = true) :
    Text.dropEndWhile Cursor.isIndent (text ++ indent) = text := by
  unfold Text.dropEndWhile
  rw [List.reverse_append, List.dropWhile_append_of_pos (by simpa using hindent),
    Cursor.dropWhile_isIndent_of_head (by rw [List.head?_reverse]; exact h.ends),
    List.reverse_reverse]

lemma IsLines.atLineStart {text more : List Char} {c : Cursor} (h : IsLines text)
    (hc : c.AtLineStart) (hrest : c.rest = text ++ more) : (c.advance text.length).AtLineStart := by
  intro ch hch
  rw [Cursor.before_advance_of hrest, List.head?_append, List.head?_reverse] at hch
  cases hlast : text.getLast? with
  | none => exact hc ch (by simpa [hlast] using hch)
  | some last => exact h.ends ch (by simpa [hlast] using hch)

/-- The token of a text, unless that is empty. -/
def textShapes (text : List Char) : List Shape :=
  if text.isEmpty then [] else [⟨.text (String.ofList text), none⟩]

lemma shapes_textToken (c : Cursor) (text : List Char) (n : Nat) :
    (c.textToken text n).map Token.shape = textShapes text := by
  unfold Cursor.textToken textShapes
  split
  · rfl
  · rfl

/-- The tokens of a line that is no text. -/
def Row.shapes (d : Dialect) : Row → List Shape
  | .text _ => []
  | .comment _ _ => [⟨.comment, none⟩]
  | .directive word head =>
    ⟨.directiveStart, none⟩ :: ⟨.ident (word.name d), none⟩ ::
      ((argumentShapes head.args).getD [] ++ [⟨.directiveEnd, none⟩])

/-- The tokens of some lines behind a text. Lines of text make up one token. -/
def outline (d : Dialect) : (text : List Char) → List Row → List Shape
  | text, [] => textShapes text
  | text, .text line :: more => outline d (text ++ line ++ ['\n']) more
  | text, .comment indent content :: more =>
    textShapes text ++ (Row.comment indent content).shapes d ++ outline d [] more
  | text, .directive word head :: more =>
    textShapes text ++ (Row.directive word head).shapes d ++ outline d [] more

/-- A step that reads a text and the line behind it. -/
structure Cuts (d : Dialect) (text : List Char) (row : Row) (s : Step) : Prop where
  shapes : s.tokens.map Token.shape = textShapes text ++ row.shapes d
  length : s.length = text.length + (row.print d).length
  strip : s.strip = false

/-- Words are identifiers to the scanner. -/
lemma Word.name_spelled (word : Word) (d : Dialect) : ∃ c cs, (word.name d).toList = c :: cs ∧
    isIdentStart c = true ∧ (∀ x ∈ cs, isIdentChar x = true) ∧
    (c ≠ '"' ∧ c ≠ '\'' ∧ c.isDigit = false) ∧ ofWord (c :: cs) = .ident (word.name d) := by
  rcases word with (_ | _ | _ | _ | _ | _ | _) | (_ | _ | (_ | _ | _ | _ | _ | _)) | _ | _ |
    (_ | _ | (_ | _ | _ | _ | _ | _)) <;> cases d <;>
  exact ⟨_, _, rfl, by decide, List.all_eq_true.mp (by decide), by decide, rfl⟩

end Document

end Stencil
