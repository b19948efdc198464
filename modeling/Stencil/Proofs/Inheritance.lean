import Stencil.Proofs.Termination

/-! Templates that extend each other render like the reference: first the assignments and imports
of the chain from the most derived template on, then the body of the last one with the most derived
body for each block. -/
namespace Stencil.Engine

open Render

variable {t : Template} {σ : Session}

/-- Renders a template by the reference. -/
def renderReference (e : Engine) (t : Template) (vars : Dict Value) :
    StateM Session (Except Error String) :=
  fun session =>
    match runReference ⟨e, vars⟩ (fuelFor e.config.maxDepth) t session with
    | (.ok output, session) => (.ok output, session)
    | (.error (.error err), session) => (.error (.render err), session)
    | (.error .outOfFuel, session) =>
      (.error (.render (.recursionLimit e.config.maxDepth .start)), session)

/-- A compiled template renders as the chain of templates that it begins: with the same text or the
same error, and the engine keeps the same templates. Code that `caller()` runs inside an included
template belongs to the chain of that template. -/
theorem render_eq_renderReference (e : Engine) (vars : Dict Value) (ht : t.Compiled)
    (hσ : σ.All Template.Compiled) : e.render t vars σ = e.renderReference t vars σ := by
  obtain ⟨r, τ, hrun⟩ := World.exists_run_eq (W := World.compiled ⟨e, vars⟩) ht hσ
  obtain ⟨hr, hreference⟩ := hrun _ (Nat.le_refl _)
  unfold render renderReference
  change run ⟨e, vars⟩ (fuelFor e.config.maxDepth) t σ = _ at hr
  change runReference ⟨e, vars⟩ (fuelFor e.config.maxDepth) t σ = _ at hreference
  cases r with
  | ok output => simp only [hr, hreference, Except.mapError]
  | error err => simp only [hr, hreference, Except.mapError]

/-- An engine with two templates that extend each other: one gives a block of the other a body with
a block of its own. -/
def chainEngine : Engine where
  config := { dialect := some .jinja }
  registry := Registry.builtin
  loader := some (.ofDict
    [("base", "{% block a %}{% endblock %}{{ x }}"),
     ("middle", Token.Jinja.TagKind.block.around " extends 'base' " ++ "{% set x = 2 %}" ++
       "{% block a %}[{% block b %}{% endblock %}]{% endblock %}")])

/-- A template that extends those of `chainEngine` and fills in the inner block. -/
def chainPage : String :=
  Token.Jinja.TagKind.block.around " extends 'middle' " ++
    "{% set x = 1 %}{% block b %}!{% endblock %}"

theorem render_eq_renderReference_chain :
    ∃ t, chainEngine.compile (some .jinja) none chainPage = .ok t ∧
      (chainEngine.render t [] {}).1.toOption = some "[!]2" ∧
      chainEngine.render t [] {} = chainEngine.renderReference t [] {} := by
  have hsome : ((chainEngine.compile (some .jinja) none chainPage).toOption.map fun t =>
      (chainEngine.render t [] {}).1.toOption) = some (some "[!]2") := by decide +kernel
  obtain ⟨t, ht, hout⟩ := Option.map_eq_some_iff.mp hsome
  have ht := Except.eq_ok_of_toOption ht
  exact ⟨t, ht, hout,
    render_eq_renderReference chainEngine [] ⟨_, _, _, _, ht⟩ (List.forall_mem_nil _)⟩

end Stencil.Engine
