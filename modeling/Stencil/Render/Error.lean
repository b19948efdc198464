import Stencil.Engine.Basic

/-! Why a template cannot be rendered. -/
namespace Stencil

/-- A failure of a running template. Places are those of the running instructions. -/
inductive RenderError where
  | loopControl (keyword : String) (pos : Position)
  | unknownFilter (name : String) (pos : Position)
  | unknownTest (name : String) (pos : Position)
  | unknownMacro (name : String) (pos : Position)
  | type (fault : Fault) (pos : Position)
  | filter (name : String) (fault : Fault) (pos : Position)
  | arity (name : String) (expected given : Nat) (pos : Position)
  | loader (path : String) (error : LoadError) (pos : Position)
  | invalidTemplate (path : String) (error : SourceError) (pos : Position)
  | cycle (path : String) (pos : Position)
  | recursionLimit (limit : Nat) (pos : Position)
deriving DecidableEq

namespace RenderError

def pos : RenderError → Position
  | .loopControl _ pos | .unknownFilter _ pos | .unknownTest _ pos | .unknownMacro _ pos
  | .type _ pos | .filter _ _ pos | .arity _ _ _ pos | .loader _ _ pos
  | .invalidTemplate _ _ pos | .cycle _ pos | .recursionLimit _ pos => pos

def message : RenderError → String
  | .loopControl keyword pos => s!"`{keyword}` outside of a loop at {pos.text}"
  | .unknownFilter name pos => s!"unknown filter `{name}` at {pos.text}"
  | .unknownTest name pos => s!"unknown test `{name}` at {pos.text}"
  | .unknownMacro name pos => s!"unknown macro `{name}` at {pos.text}"
  | .type fault pos => s!"type error at {pos.text}: {fault.message}"
  | .filter name fault pos => s!"filter `{name}` failed at {pos.text}: {fault.message}"
  | .arity name expected given pos =>
    s!"macro `{name}` takes {expected} argument(s), {given} given at {pos.text}"
  | .loader path error pos => s!"cannot load template `{path}` at {pos.text}: {error.message}"
  | .invalidTemplate path error pos =>
    s!"template `{path}` loaded at {pos.text} is invalid: {error.message}"
  | .cycle path pos => s!"template `{path}` includes itself at {pos.text}"
  | .recursionLimit limit pos => s!"recursion limit of {limit} exceeded at {pos.text}"

end RenderError

/-- Any failure of an engine. -/
inductive Error where
  | source (error : SourceError)
  | render (error : RenderError)
  | load (error : LoadError)

namespace Error

def ofFetch : FetchError → Error
  | .load e => .load e
  | .source e => .source e

/-- The place of the failure in a template, if there is one. -/
def pos? : Error → Option Position
  | .source e => some e.pos
  | .render e => some e.pos
  | .load _ => none

def message : Error → String
  | .source e => e.message
  | .render e => "render error: " ++ e.message
  | .load e => e.message

end Error

end Stencil
