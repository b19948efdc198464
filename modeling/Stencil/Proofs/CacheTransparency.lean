import Stencil.Proofs.Requests
import Stencil.Proofs.Supply

/-! Whether and how many templates are kept does not show: an engine gives the same replies with
every size of its cache. -/
namespace Stencil

namespace Engine

/-- The engine with room for `n` templates. -/
def withCacheSize (e : Engine) (n : Nat) : Engine :=
  { e with config := { e.config with cacheSize := n } }

variable {e : Engine} {n : Nat} {σ σ' : Session}

/-- Both sessions keep nothing that is stale; they may keep different templates. -/
def BothFresh (e : Engine) (σ σ' : Session) : Prop := σ.Fresh e ∧ σ'.Fresh e

/-- Size does not matter to what is supplied. -/
lemma supply_withCacheSize (name : String) : (e.withCacheSize n).supply name = e.supply name := rfl

lemma fetched_of_fresh (h : e.BothFresh σ σ') (name : String) :
    Render.Fetched .any e.BothFresh (e.fetch name σ) ((e.withCacheSize n).fetch name σ') := by
  obtain ⟨hreply, hσ⟩ := fresh_fetch h.1 name
  obtain ⟨hreply', hσ'⟩ := fresh_fetch (e := e.withCacheSize n) h.2 name
  rw [supply_withCacheSize, ← hreply] at hreply'
  generalize e.fetch name σ = r at hreply' hσ ⊢
  generalize (e.withCacheSize n).fetch name σ' = r' at hreply' hσ' ⊢
  obtain ⟨err | l, τ⟩ := r
  · obtain ⟨err' | l', τ'⟩ := r'
    · cases hreply'
      exact .error ⟨hσ, hσ'⟩
    · cases hreply'
  · obtain ⟨err' | l', τ'⟩ := r'
    · cases hreply'
    · have htemplate : l'.template = l.template := Except.ok.inj hreply'
      exact .ok htemplate.symm (fun _ _ => trivial) ⟨hσ, hσ'⟩

lemma alike_withCacheSize (e : Engine) (n : Nat) :
    Alike e.BothFresh e (e.withCacheSize n) where
  registry := rfl
  dialect := rfl
  autoescape := rfl
  maxDepth := rfl
  fetch name _ _ h := fetched_of_fresh h name

/-- A larger registry, from which the kept templates would be compiled again. -/
lemma BothFresh.of_grows {r : Registry} (h : e.BothFresh σ σ') (hr : e.registry.Grows r) :
    { e with registry := r }.BothFresh σ σ' :=
  ⟨fun x hx => supply_of_grows hr (h.1 x hx), fun x hx => supply_of_grows hr (h.2 x hx)⟩

/-- Where nothing is kept, nothing is stale. -/
lemma bothFresh_nil {loads loads' : List String} : e.BothFresh ⟨{}, loads⟩ ⟨{}, loads'⟩ :=
  ⟨List.forall_mem_nil _, List.forall_mem_nil _⟩

end Engine

namespace Host

variable {n : Nat} {host host' : Host}

/-- Two hosts in the same position, up to the size of the cache and what is kept in it. -/
structure Twins (n : Nat) (host host' : Host) : Prop where
  engine : host'.engine = host.engine.withCacheSize n
  templates : host.templates = host'.templates
  fresh : host.engine.BothFresh host.session host'.session

/-- The same reply to both, who are in the same position again. -/
def Twins.Told (n : Nat) (r r' : Reply × Host) : Prop := r.1 = r'.1 ∧ Twins n r.2 r'.2

lemma Twins.rendered (h : Twins n host host') {act act' : StateM Session (Except Error String)}
    (hact : Engine.Agrees host.engine.BothFresh act act') :
    Twins.Told n (host.rendered act) (host'.rendered act') := by
  obtain ⟨hresult, hfresh⟩ := hact h.fresh
  exact ⟨congrArg Reply.ofRender hresult, h.engine, h.templates, hfresh⟩

/-- One request, served by both. -/
theorem Twins.serve (h : Twins n host host') (request : Request) :
    Twins.Told n (host.serve request) (host'.serve request) := by
  obtain ⟨e, σ, ts⟩ := host
  obtain ⟨e', σ', ts'⟩ := host'
  have ⟨hengine, htemplates, hfresh⟩ := h
  dsimp only at hengine htemplates hfresh
  subst hengine htemplates
  have halike := e.alike_withCacheSize n
  cases request with
  | addFilter name run =>
    exact ⟨rfl, rfl, rfl, hfresh.of_grows fun _ => Registry.knows_addFilter⟩
  | addTest name test =>
    exact ⟨rfl, rfl, rfl, hfresh.of_grows fun _ => Registry.knows_addTest⟩
  | setLoader loader | clearCache => exact ⟨rfl, rfl, rfl, Engine.bothFresh_nil⟩
  | compile choice name source =>
    have hcompile : (e.withCacheSize n).compile choice name source =
        e.compile choice name source := rfl
    simp only [Host.serve, hcompile]
    cases e.compile choice name source with
    | ok t => exact ⟨rfl, rfl, rfl, hfresh⟩
    | error err => exact ⟨rfl, rfl, rfl, hfresh⟩
  | fetch name =>
    have hfetched := Engine.fetched_of_fresh (n := n) hfresh name
    simp only [Host.serve]
    generalize e.fetch name σ = r at hfetched ⊢
    generalize (e.withCacheSize n).fetch name σ' = r' at hfetched ⊢
    cases hfetched with
    | ok htemplate _ hτ =>
      simp only [htemplate]
      exact ⟨rfl, rfl, rfl, hτ⟩
    | error hτ => exact ⟨rfl, rfl, rfl, hτ⟩
  | render place vars =>
    simp only [Host.serve]
    cases ts[place]? with
    | none => exact ⟨rfl, rfl, rfl, hfresh⟩
    | some t => exact h.rendered (halike.render t vars)
  | renderNamed name vars =>
    exact h.rendered (halike.renderNamed name vars)
  | renderText source vars =>
    exact h.rendered (halike.renderText source vars)

theorem Twins.serveAll (h : Twins n host host') (requests : List Request) :
    (host.serveAll requests).1 = (host'.serveAll requests).1 ∧
      Twins n (host.serveAll requests).2 (host'.serveAll requests).2 := by
  induction requests generalizing host host' with
  | nil => exact ⟨rfl, h⟩
  | cons request more ih =>
    obtain ⟨hreply, h⟩ := h.serve request
    obtain ⟨hreplies, h⟩ := ih h
    exact ⟨congrArg₂ List.cons hreply hreplies, h⟩

/-- An engine gives the same replies, one after the other, whatever the size of its cache: to every
sequence of requests, with any templates at hand from the start. -/
theorem serveAll_withCacheSize (e : Engine) (n : Nat) (templates : List Template)
    (requests : List Request) :
    ((Host.mk (e.withCacheSize n) {} templates).serveAll requests).1 =
      ((Host.mk e {} templates).serveAll requests).1 := by
  have hstart : Twins n ⟨e, {}, templates⟩ ⟨e.withCacheSize n, {}, templates⟩ :=
    ⟨rfl, rfl, Engine.bothFresh_nil⟩
  exact (hstart.serveAll requests).1.symm

/-- Without room a template is loaded each time. -/
example :
    let e : Engine := { registry := Registry.builtin, loader := some (.ofDict [("a", "A")]) }
    let requests : List Request := [.renderNamed "a" [], .renderNamed "a" []]
    ((Host.mk e {} []).serveAll requests).2.session.loads = ["a"] ∧
      ((Host.mk (e.withCacheSize 0) {} []).serveAll requests).2.session.loads = ["a", "a"] := by
  decide +kernel

end Host
end Stencil
