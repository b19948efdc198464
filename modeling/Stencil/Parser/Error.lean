import Stencil.Token.Error

/-! Why a sequence of tokens is no template. -/
namespace Stencil

/-- A violation of the grammar. -/
inductive ParseError where
  | unexpectedToken (expected found : String) (pos : Position)
  | unexpectedEnd (expected : String) (pos : Position)
  | unknownDirective (name : String) (pos : Position)
  | unclosed (construct closer : String) (pos : Position)
  | mismatchedCloser (expected found : String) (pos : Position)
  | strayCloser (closer : String) (pos : Position)
  | unterminatedString (pos : Position)
  | invalidAutoescape (pos : Position)
  | notCallable (pos : Position)
  | tooDeep (limit : Nat) (pos : Position)
deriving DecidableEq

namespace ParseError

def pos : ParseError → Position
  | .unexpectedToken _ _ pos | .unexpectedEnd _ pos | .unknownDirective _ pos
  | .unclosed _ _ pos | .mismatchedCloser _ _ pos | .strayCloser _ pos
  | .unterminatedString pos | .invalidAutoescape pos | .notCallable pos | .tooDeep _ pos => pos

def message : ParseError → String
  | .unexpectedToken expected found pos => s!"expected {expected}, found {found} at {pos.text}"
  | .unexpectedEnd expected _ => s!"unexpected end of template, expected {expected}"
  | .unknownDirective name pos => s!"unknown directive `{name}` at {pos.text}"
  | .unclosed construct closer pos =>
    s!"`{construct}` opened at {pos.text} is never closed (expected `{closer}`)"
  | .mismatchedCloser expected found pos =>
    s!"expected `{expected}`, found `{found}` at {pos.text}"
  | .strayCloser closer pos => s!"`{closer}` at {pos.text} has no open directive to close"
  | .unterminatedString pos => s!"unterminated string literal at {pos.text}"
  | .invalidAutoescape pos =>
    s!"invalid autoescape mode at {pos.text}: expected true, false or \"html\""
  | .notCallable pos => s!"only macros can be called, at {pos.text}"
  | .tooDeep limit pos => s!"nesting too deep (limit {limit}) at {pos.text}"

end ParseError

/-- Why a text cannot be parsed: it has a place that cannot be read, or its tokens do not fit. -/
inductive SyntaxError where
  | lex (error : LexError)
  | parse (error : ParseError)
deriving DecidableEq

/-- To the parser a string without an end is a violation of the grammar. -/
def SyntaxError.ofLex : LexError → SyntaxError
  | .unterminatedString pos => .parse (.unterminatedString pos)
  | e => .lex e

end Stencil
