import Stencil.Dialect
import Stencil.Token.Jinja

/-! Whole texts as sequences of tokens. -/
namespace Stencil

/-- The tokens of a text up to its end or to the first place that cannot be read. -/
structure TokenStream where
  dialect : Dialect
  tokens : List Token
  /-- What is wrong behind the last token, if anything is. -/
  fault : Option LexError
  /-- The place behind the last character of the text. -/
  stop : Position

namespace TokenStream

/-- Reads the next construct in the given dialect. -/
def step (dialect : Dialect) (strip : Bool) (c : Cursor) (h : c.rest ≠ []) :
    Except LexError Step :=
  match dialect with
  | .native => Token.Native.step c h
  | .jinja => Token.Jinja.step strip c h

/-- The tokens behind a place, and what ends them before the text does. -/
def tokensFrom (dialect : Dialect) (strip : Bool) (c : Cursor) : List Token × Option LexError :=
  if h : c.rest = [] then ([], none)
  else match step dialect strip c h with
    | .error e => ([], some e)
    | .ok s =>
      let (tokens, fault) := tokensFrom dialect s.strip (c.advance s.length)
      (s.tokens ++ tokens, fault)
termination_by c.rest.length
decreasing_by
  have := s.length_pos
  have := c.length_rest_pos h
  simp only [Cursor.rest_advance, List.length_drop]
  omega

/-- The tokens of a text in the given dialect. -/
def ofText (dialect : Dialect) (text : List Char) : TokenStream :=
  let (tokens, fault) := tokensFrom dialect false (.start text)
  { dialect, tokens, fault, stop := Position.start.after text }

/-- The tokens of a text in the chosen dialect, or in the one it is written in. -/
def ofSource (choice : Option Dialect) (source : String) : Except LexError TokenStream :=
  match Dialect.resolve choice source with
  | .error e => .error e
  | .ok dialect => .ok (ofText dialect source.toList)

end TokenStream

end Stencil
