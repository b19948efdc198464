/-! Places in a template text, counted from one. -/
namespace Stencil

/-- A line and a column, both counted from one. -/
structure Position where
  line : Nat
  column : Nat
deriving DecidableEq

namespace Position

/-- The place of the first character of a text. -/
def start : Position := ⟨1, 1⟩

/-- The place behind a character that stands at `p`. -/
def advance (p : Position) (c : Char) : Position :=
  if c = '\n' then ⟨p.line + 1, 1⟩ else ⟨p.line, p.column + 1⟩

/-- The place behind `text` when it begins at `p`. -/
def after (p : Position) (text : List Char) : Position := text.foldl advance p

@[simp] theorem after_nil (p : Position) : p.after [] = p := rfl

@[simp] theorem after_cons (p : Position) (c : Char) (r : List Char) :
    p.after (c :: r) = (p.advance c).after r := rfl

/-- Line and column with a colon between them, as messages name a place. -/
def text (p : Position) : String := s!"{p.line}:{p.column}"

end Position

end Stencil
