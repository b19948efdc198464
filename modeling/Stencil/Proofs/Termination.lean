import Mathlib.Tactic.Linarith
import Stencil.Proofs.MirroredChain

/-! Rendering ends. The fuel of an engine suffices for every template that is compiled: macros and
templates inside each other are counted against the limit of the settings, each `caller()` uses up
a call block that waits, and blocks inside each other go up the chain or inwards. -/
namespace Stencil

namespace Render

/-- The scene in which a template starts. -/
def Scene.initial (t : Template) : Scene where
  derived := []
  overrides := []
  active := t.name.toList
  callers := []
  macroDepth := 0
  pin := none

namespace World

variable {W : World} {t : Template} {σ : Session} {n : Nat}

lemma valid_initial (t : Template) : W.Valid (Scene.initial t) where
  overrides _ := rfl
  derived := List.forall_mem_nil _
  callers := List.forall_mem_nil _
  length := Nat.zero_le _
  active := by
    change t.name.toList.length ≤ W.maxDepth + 1
    cases t.name with
    | none => exact Nat.zero_le _
    | some name => exact Nat.le_add_left 1 _
  spares := nofun

lemma holds_initial (t : Template) : W.Holds (Scene.initial t) (State.initial W.env t) where
  overrides := rfl
  active := rfl
  callers := rfl
  macroDepth := rfl
  imports := List.forall_mem_nil _
  pin := nofun

/-- The fuel of an engine covers the effort of the first scene. -/
lemma effort_initial_le (W : World) (t : Template) :
    W.effort (Scene.initial t) + W.width + 2 ≤ fuelFor W.maxDepth := by
  have hlevels : W.levels (Scene.initial t) ≤ 3 * W.maxDepth := by
    simp only [levels, Scene.initial, List.length_nil]
    omega
  have heffort := Nat.mul_le_mul_right (W.width + 2) hlevels
  simp only [effort, width, fuelFor, Parser.maxNesting] at heffort ⊢
  nlinarith

lemma run_eq_runReference (ht : W.admits t) (hσ : σ.All W.admits) {m : Nat}
    (hn : fuelFor W.maxDepth ≤ n) (hm : n ≤ m) :
    ∃ (r : Except RenderError String) (τ : Session),
      run W.env n t σ = (r.mapError .error, τ) ∧
        runReference W.env m t σ = (r.mapError .error, τ) := by
  have hcost := Nat.le_trans (W.effort_initial_le t) hn
  have hrender := (serves (W := W) hm).render (c := Scene.initial t) [] (valid_initial t) ht hcost
  unfold run runReference
  rcases (hrender (holds_initial t) ⟨_, rfl⟩ hσ).cases with
    ⟨output, u, u', τ, hr, hr', -⟩ | ⟨e, τ, hr, hr', -⟩
  · rw [hr, hr']
    exact ⟨.ok output, τ, rfl, rfl⟩
  · rw [hr, hr']
    exact ⟨.error e, τ, rfl, rfl⟩

/-- From the fuel of an engine on, runs end alike with every fuel, and so do those of the
reference. -/
theorem exists_run_eq (ht : W.admits t) (hσ : σ.All W.admits) :
    ∃ (r : Except RenderError String) (τ : Session),
      ∀ n, fuelFor W.maxDepth ≤ n →
        run W.env n t σ = (r.mapError .error, τ) ∧
          runReference W.env n t σ = (r.mapError .error, τ) := by
  obtain ⟨r, τ, hr, -⟩ := run_eq_runReference ht hσ (Nat.le_refl _) (Nat.le_refl _)
  refine ⟨r, τ, fun n hn => ?_⟩
  obtain ⟨r₁, τ₁, hr₁, hreference⟩ := run_eq_runReference ht hσ (Nat.le_refl _) hn
  obtain ⟨r₂, τ₂, hr₂, hreference'⟩ := run_eq_runReference ht hσ hn (Nat.le_refl n)
  have hfirst := hr.symm.trans hr₁
  exact ⟨hr₂.trans (hreference'.symm.trans (hreference.trans hfirst.symm)),
    hreference.trans hfirst.symm⟩

/-- All templates of an engine are compiled. -/
def compiled (env : Env) : World where
  env := env
  admits := Template.Compiled
  layered := Template.Compiled.layered
  fetch path _ hσ :=
    Engine.all_fetch (fun _ path source _ _ _ h => ⟨_, _, some path, source, h⟩) hσ path

end World

end Render

namespace Engine

open Render

variable {t : Template} {σ : Session}

/-- Rendering a compiled template ends with a text or an error, for every engine and all variables:
from some fuel on, which the engine has, runs are not out of fuel and end alike. -/
theorem exists_run_eq_render (e : Engine) (vars : Dict Value) (ht : t.Compiled)
    (hσ : σ.All Template.Compiled) :
    ∃ (r : Except RenderError String) (τ : Session),
      (∀ n, fuelFor e.config.maxDepth ≤ n →
        run ⟨e, vars⟩ n t σ = (r.mapError Stop.error, τ)) ∧
      e.render t vars σ = (r.mapError Error.render, τ) := by
  obtain ⟨r, τ, hrun⟩ := World.exists_run_eq (W := World.compiled ⟨e, vars⟩) ht hσ
  refine ⟨r, τ, fun n hn => (hrun n hn).1, ?_⟩
  have henough := (hrun _ (Nat.le_refl _)).1
  unfold render
  change run ⟨e, vars⟩ (fuelFor e.config.maxDepth) t σ = _ at henough
  rw [henough]
  cases r with
  | ok output => rfl
  | error err => rfl

/-- Two macros that call each other without end, one of them from a call block. -/
def endless : String :=
  Token.Jinja.TagKind.block.around " macro f() " ++
  "{% call g() %}{{ caller() }}{% endcall %}{% endmacro %}" ++
  Token.Jinja.TagKind.block.around " macro g() " ++ "{{ f() }}{% endmacro %}{{ f() }}"

theorem exists_run_eq_render_endless :
    ∃ t, default.compile (some .jinja) none endless = .ok t ∧
      ∃ (r : Except RenderError String) (τ : Session),
        (∀ n, fuelFor 64 ≤ n → run ⟨default, []⟩ n t {} = (r.mapError Stop.error, τ)) ∧
        default.render t [] {} = (r.mapError Error.render, τ) := by
  have hsome : (default.compile (some .jinja) none endless).toOption.isSome = true := by
    decide +kernel
  obtain ⟨t, ht⟩ := Option.isSome_iff_exists.mp hsome
  have ht := Except.eq_ok_of_toOption ht
  refine ⟨t, ht, ?_⟩
  exact exists_run_eq_render default [] ⟨_, _, _, _, ht⟩ (List.forall_mem_nil _)

end Engine

end Stencil
