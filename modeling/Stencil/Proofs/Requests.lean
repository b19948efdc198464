import Stencil.Proofs.KnownNames

/-! What a host asks of an engine, and what it is told. A reply shows texts, templates and errors;
it does not show which load a template comes from. -/
namespace Stencil

/-- What a host asks of an engine. -/
inductive Request where
  | addFilter (name : String) (run : Value → List Value → Except Fault Value)
  | addTest (name : String) (test : Test)
  | setLoader (loader : Loader)
  | clearCache
  | compile (choice : Option Dialect) (name : Option String) (source : String)
  | fetch (name : String)
  /-- Renders one of the templates that the host has, by its place among them. -/
  | render (place : Nat) (vars : Dict Value)
  | renderNamed (name : String) (vars : Dict Value)
  | renderText (source : String) (vars : Dict Value)

/-- What a host is told. -/
inductive Reply where
  | done
  | template (t : Template)
  | text (output : String)
  | failed (error : Error)
  /-- The host has no template at that place. -/
  | missing

def Reply.ofRender : Except Error String → Reply
  | .ok output => .text output
  | .error err => .failed err

namespace Host

/-- Renders something and tells how it went. -/
def rendered (host : Host) (act : StateM Session (Except Error String)) : Reply × Host :=
  let (result, session) := act host.session
  (.ofRender result, { host with session })

/-- Serves a request. The templates that a host gets are numbered from the first one on. -/
def serve (host : Host) : Request → Reply × Host
  | .addFilter name run => (.done, { host with engine := host.engine.addFilter name run })
  | .addTest name test => (.done, { host with engine := host.engine.addTest name test })
  | .setLoader loader =>
    let (engine, session) := host.engine.setLoader loader host.session
    (.done, { host with engine, session })
  | .clearCache => (.done, { host with session := (Engine.clearCache host.session).2 })
  | .compile choice name source =>
    match host.engine.compile choice name source with
    | .ok t => (.template t, { host with templates := host.templates ++ [t] })
    | .error err => (.failed (.source err), host)
  | .fetch name =>
    match host.engine.fetch name host.session with
    | (.ok l, session) =>
      (.template l.template, { host with session, templates := host.templates ++ [l.template] })
    | (.error err, session) => (.failed (.ofFetch err), { host with session })
  | .render place vars =>
    match host.templates[place]? with
    | some t => host.rendered (host.engine.render t vars)
    | none => (.missing, host)
  | .renderNamed name vars => host.rendered (host.engine.renderNamed name vars)
  | .renderText source vars => host.rendered (host.engine.renderText source vars)

/-- Serves requests one after the other. -/
def serveAll (host : Host) : List Request → List Reply × Host
  | [] => ([], host)
  | request :: more =>
    let (reply, host) := host.serve request
    let (replies, host) := host.serveAll more
    (reply :: replies, host)

end Host
end Stencil
