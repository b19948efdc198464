import Stencil.Parser.Error

/-! Why a syntax tree is no template. -/
namespace Stencil

/-- A fault that shows without running the template. Places are those of the directives. -/
inductive CompileError where
  | unknownFilter (name : String) (pos : Position)
  | unknownTest (name : String) (pos : Position)
  | duplicateMacro (name : String) (pos : Position)
  | duplicateBlock (name : String) (pos : Position)
  | duplicateParameter (macroName param : String) (pos : Position)
  | requiredAfterDefault (macroName param : String) (pos : Position)
  | misplacedExtends (pos : Position)
deriving DecidableEq

namespace CompileError

def pos : CompileError → Position
  | .unknownFilter _ pos | .unknownTest _ pos | .duplicateMacro _ pos | .duplicateBlock _ pos
  | .duplicateParameter _ _ pos | .requiredAfterDefault _ _ pos | .misplacedExtends pos => pos

def message : CompileError → String
  | .unknownFilter name pos => s!"unknown filter `{name}` at {pos.text}"
  | .unknownTest name pos => s!"unknown test `{name}` at {pos.text}"
  | .duplicateMacro name pos =>
    s!"macro `{name}` defined twice (second definition at {pos.text})"
  | .duplicateBlock name pos =>
    s!"block `{name}` defined twice (second definition at {pos.text})"
  | .duplicateParameter macroName param pos =>
    s!"macro `{macroName}` declares parameter `{param}` twice at {pos.text}"
  | .requiredAfterDefault macroName param pos =>
    s!"macro `{macroName}`: parameter `{param}` without a default follows a defaulted one at {pos.text}"
  | .misplacedExtends pos =>
    s!"`extends` at {pos.text} must appear once, at the top level of the template"

end CompileError

/-- Why a text is no template. -/
inductive SourceError where
  | lex (error : LexError)
  | parse (error : ParseError)
  | compile (error : CompileError)
deriving DecidableEq

namespace SourceError

def ofSyntax : SyntaxError → SourceError
  | .lex e => .lex e
  | .parse e => .parse e

def pos : SourceError → Position
  | .lex e => e.pos
  | .parse e => e.pos
  | .compile e => e.pos

/-- The message with the stage that found the fault. -/
def message : SourceError → String
  | .lex e => "lex error: " ++ e.message
  | .parse e => "parse error: " ++ e.message
  | .compile e => "compile error: " ++ e.message

end SourceError

end Stencil
