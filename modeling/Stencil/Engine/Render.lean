import Stencil.Filter.Builtin
import Stencil.Render.Template
import Stencil.Value.OfJson

/-! Rendering with an engine. -/
namespace Stencil.Engine

/-- An engine with the built-in filters and tests. -/
def ofConfig (config : Config) : Engine := { config, registry := Registry.builtin }

/-- An engine with default settings and no loader. -/
def default : Engine := ofConfig {}

/-- Renders a compiled template with the given variables. -/
def render (e : Engine) (t : Template) (vars : Dict Value) : StateM Session (Except Error String) :=
  fun session =>
    match Render.run ⟨e, vars⟩ (Render.fuelFor e.config.maxDepth) t session with
    | (.ok output, session) => (.ok output, session)
    | (.error (.error err), session) => (.error (.render err), session)
    | (.error .outOfFuel, session) =>
      (.error (.render (.recursionLimit e.config.maxDepth .start)), session)

/-- Compiles a text in the dialect of the settings and renders it. -/
def renderText (e : Engine) (source : String) (vars : Dict Value) :
    StateM Session (Except Error String) :=
  match e.compile e.config.dialect none source with
  | .error err => pure (.error (.source err))
  | .ok t => e.render t vars

/-- Fetches a template by its name and renders it. -/
def renderNamed (e : Engine) (name : String) (vars : Dict Value) :
    StateM Session (Except Error String) := do
  match ← e.fetch name with
  | .error err => return .error (Error.ofFetch err)
  | .ok loaded => e.render loaded.template vars

end Stencil.Engine
