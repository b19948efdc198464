import Stencil.Engine.Cache
import Stencil.Engine.Config
import Stencil.Template.Compile

/-! Engines: settings, filters and tests, and the templates that a loader supplies. -/
namespace Stencil

/-- Why a loader supplies no template. -/
inductive LoadError where
  | notFound (path : String)
  | noLoader (path : String)
  | failed (path message : String)
deriving DecidableEq

def LoadError.message : LoadError → String
  | .notFound path => s!"template not found: {path}"
  | .noLoader path => s!"no loader configured to resolve `{path}`"
  | .failed path message => s!"failed to load `{path}`: {message}"

/-- A loader finds the text of a template by its path. -/
abbrev Loader := String → Except LoadError String

/-- A loader for a fixed collection of templates. -/
def Loader.ofDict (templates : Dict String) : Loader := fun path =>
  match Dict.get? templates path with
  | some source => .ok source
  | none => .error (.notFound path)

/-- What an engine is set up with. -/
structure Engine where
  config : Config := {}
  registry : Registry
  loader : Option Loader := none

/-- What an engine remembers from one operation to the next. -/
structure Session where
  cache : Cache := {}
  /-- The paths asked of loaders, latest first. -/
  loads : List String := []

/-- Why a template cannot be had by its name. -/
inductive FetchError where
  | load (error : LoadError)
  | source (error : SourceError)

namespace Engine

/-- Compiles a text in the chosen dialect. -/
def compile (e : Engine) (choice : Option Dialect) (name : Option String) (source : String) :
    Except SourceError Template :=
  Template.ofSource e.registry choice name source

/-- The template of a name: the one kept under it, or the one that the loader supplies, which is
then kept. -/
def fetch (e : Engine) (name : String) : StateM Session (Except FetchError Loaded) := fun s =>
  match s.cache.get? name with
  | some t => (.ok t, s)
  | none =>
    match e.loader with
    | none => (.error (.load (.noLoader name)), s)
    | some load =>
      let edition := s.loads.length
      let s := { s with loads := name :: s.loads }
      match load name with
      | .error err => (.error (.load err), s)
      | .ok source =>
        match e.compile e.config.dialect (some name) source with
        | .error err => (.error (.source err), s)
        | .ok t =>
          let t := ⟨edition, t⟩
          (.ok t, { s with cache := s.cache.insert e.config.cacheSize name t })

/-- Forgets all templates that are kept. -/
def clearCache : StateM Session Unit := modify fun s => { s with cache := {} }

/-- Installs a loader and forgets the templates of the one before it. -/
def setLoader (e : Engine) (loader : Loader) : StateM Session Engine := do
  clearCache
  return { e with loader := some loader }

/-- A filter of that name, in place of any that had the name before. -/
def addFilter (e : Engine) (name : String) (run : Value → List Value → Except Fault Value) :
    Engine :=
  { e with registry := e.registry.addFilter name run }

/-- A test of that name, in place of any that had the name before. -/
def addTest (e : Engine) (name : String) (test : Test) : Engine :=
  { e with registry := e.registry.addTest name test }

end Engine

end Stencil
