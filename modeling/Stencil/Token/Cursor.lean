import Stencil.Token.Basic
import Stencil.Unicode.Whitespace

/-! A place in a text, with what stands before and behind it. -/
namespace Stencil

/-- A place in a text: the characters before it, last one first, those behind it, the number of
the former and the line and column. -/
structure Cursor where
  before : List Char
  rest : List Char
  offset : Nat
  pos : Position

namespace Cursor

/-- The place before the first character. -/
def start (text : List Char) : Cursor := ⟨[], text, 0, .start⟩

/-- The place `n` characters further on, or the end of the text. -/
def advance : Nat → Cursor → Cursor
  | 0, c => c
  | n + 1, c =>
    match c.rest with
    | [] => c
    | ch :: rest => advance n ⟨ch :: c.before, rest, c.offset + 1, c.pos.advance ch⟩

@[simp] theorem rest_advance (n : Nat) (c : Cursor) : (c.advance n).rest = c.rest.drop n := by
  induction n generalizing c with
  | zero => rfl
  | succ n ih =>
    unfold advance
    split
    · simp_all
    · simp_all

/-- Behind the first character of what lies ahead less is left than before. -/
theorem advance_lt {c : Cursor} {gap : Nat} {ch : Char} {rest : List Char}
    (h : (c.advance gap).rest = ch :: rest) (n : Nat) :
    ((c.advance gap).advance (n + 1)).rest.length < c.rest.length := by
  rw [rest_advance] at h
  have := congrArg List.length h
  simp only [rest_advance, List.length_drop, List.length_cons] at this ⊢
  omega

/-- Behind the next character less is left than before. -/
theorem next_lt {c : Cursor} {ch : Char} {rest : List Char} (h : c.rest = ch :: rest) (n : Nat) :
    (c.advance (n + 1)).rest.length < c.rest.length :=
  @advance_lt c 0 ch rest h n

theorem offset_advance {n : Nat} {c : Cursor} (h : n ≤ c.rest.length) :
    (c.advance n).offset = c.offset + n := by
  induction n generalizing c with
  | zero => rfl
  | succ n ih =>
    unfold advance
    split
    · rename_i hrest
      rw [hrest] at h
      exact absurd h (Nat.not_succ_le_zero n)
    · rename_i ch rest hrest
      rw [hrest] at h
      rw [ih (Nat.le_of_succ_le_succ h)]
      exact Nat.add_right_comm c.offset 1 n

/-- The number of characters from a place to a later one. -/
def distance (c stop : Cursor) : Nat := stop.offset - c.offset

@[simp] theorem distance_advance {n : Nat} {c : Cursor} (h : n ≤ c.rest.length) :
    c.distance (c.advance n) = n := by
  rw [distance, offset_advance h, Nat.add_sub_cancel_left]

/-- Before the end of the text something is left. -/
theorem length_rest_pos {c : Cursor} (h : c.rest ≠ []) : 0 < c.rest.length :=
  List.length_pos_iff.2 h

/-- The token of the next `n` characters. -/
def token (c : Cursor) (kind : Token.Kind) (n : Nat) : Token :=
  ⟨kind, String.ofList (c.rest.take n), c.offset, c.pos⟩

/-- The token for the next `n` characters as literal text of the given content, unless that is
empty. -/
def textToken (c : Cursor) (content : List Char) (n : Nat) : List Token :=
  if content.isEmpty then [] else [c.token (.text (String.ofList content)) n]

/-- The blanks that indent a line. -/
def isIndent (ch : Char) : Bool := ch == ' ' || ch == '\t'

/-- The blanks inside a line. -/
def isLineBlank (ch : Char) : Bool := ch == ' ' || ch == '\t' || ch == '\r'

/-- The number of blanks ahead, within the line or of all kinds. -/
def blanks (c : Cursor) (acrossLines : Bool) : Nat :=
  (c.rest.takeWhile fun ch => isLineBlank ch || (acrossLines && Unicode.isWhitespace ch)).length

/-- Whether only indentation stands before the place on its line. -/
def leadsLine (c : Cursor) : Bool :=
  match c.before.dropWhile isIndent with
  | [] => true
  | ch :: _ => ch == '\n'

/-- The number of characters to the next line, if only blanks are left on this one. -/
def lineEnd? (c : Cursor) : Option Nat :=
  let n := (c.rest.takeWhile isLineBlank).length
  match c.rest.drop n with
  | [] => some n
  | ch :: _ => if ch = '\n' then some (n + 1) else none

/-- If what stands between two places is alone on its lines: the number of characters from its end
to the next line. -/
def standsAlone (opener closer : Cursor) : Option Nat :=
  if opener.leadsLine then closer.lineEnd? else none

end Cursor

/-- What one step of cutting finds: its tokens, the number of characters read, and whether the
blanks behind them are to be skipped. -/
structure Step where
  tokens : List Token
  length : Nat
  strip : Bool
  length_pos : 0 < length := by omega

end Stencil
