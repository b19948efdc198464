import Stencil.Position

/-! Why a text cannot be cut into tokens. -/
namespace Stencil

/-- A marker that is not completed, or a character that has no place in an expression. -/
inductive LexError where
  | unterminated (opener closer : String) (pos : Position)
  | unterminatedBlock (construct closer : String) (pos : Position)
  | unterminatedString (pos : Position)
  | unexpectedChar (char : Char) (pos : Position)
  /-- Markers of both dialects occur and none was asked for. -/
  | mixedDialects (pos : Position)
deriving DecidableEq

namespace LexError

def pos : LexError → Position
  | .unterminated _ _ pos | .unterminatedBlock _ _ pos | .unterminatedString pos
  | .unexpectedChar _ pos | .mixedDialects pos => pos

def message : LexError → String
  | .unterminated opener closer pos =>
    s!"unterminated `{opener}` at {pos.text}: missing `{closer}`"
  | .unterminatedBlock construct closer pos =>
    s!"unterminated {construct} block at {pos.text}: missing `{closer}`"
  | .unterminatedString pos => s!"unterminated string literal at {pos.text}"
  | .unexpectedChar char pos => s!"unexpected character `{char}` at {pos.text}"
  | .mixedDialects pos =>
    s!"template mixes native and jinja syntax (native marker at {pos.text}); pass an explicit syntax"

end LexError

end Stencil
