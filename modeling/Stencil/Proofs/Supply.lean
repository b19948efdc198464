import Stencil.Engine.Render
import Stencil.Proofs.CoupledInstr
import Stencil.Proofs.Kept
import Stencil.Proofs.Recompilation

/-! Kept templates that are not stale, and engines that give the same templates when they are asked
for the same names: these render alike, whatever each of them keeps. -/
namespace Stencil

/-! ### Kept templates that are not stale -/

/-- What is kept under a name is what the engine supplies under it. -/
def Session.Fresh (σ : Session) (e : Engine) : Prop :=
  ∀ x ∈ σ.cache.entries, e.supply x.1 = .ok x.2.template

namespace Engine

variable {e : Engine} {name : String} {σ : Session}

/-- While nothing that is kept is stale, fetching gives what the loader has, and nothing becomes
stale by it. -/
theorem fresh_fetch (h : σ.Fresh e) (name : String) :
    (e.fetch name σ).1.map Loaded.template = e.supply name ∧ (e.fetch name σ).2.Fresh e := by
  have hgoes := e.fetching name σ
  generalize e.fetch name σ = r at hgoes ⊢
  cases hgoes with
  | kept hkept => exact ⟨(h _ (Dict.mem_of_get? hkept)).symm, h⟩
  | noLoader _ hloader => exact ⟨(supply_noLoader hloader).symm, h⟩
  | failed _ _ hsupply => exact ⟨hsupply.symm, h⟩
  | arrived _ _ hsupply =>
    refine ⟨hsupply.symm, fun x hx => ?_⟩
    rcases Cache.mem_insert hx with rfl | hx
    · exact hsupply
    · exact h x hx

/-- More names do not make a kept template stale: it would be compiled to the same again. -/
lemma supply_of_grows {r : Registry} (h : e.registry.Grows r) {t : Template}
    (ht : e.supply name = .ok t) : { e with registry := r }.supply name = .ok t := by
  obtain ⟨load, source, hload, hsource, ht⟩ := supply_eq_ok.mp ht
  exact supply_eq_ok.mpr ⟨load, source, hload, hsource, Template.ofSource_of_grows h ht⟩

/-! ### Engines whose fetches agree -/

/-- Two engines that give the same templates for the same names, with sessions that stay in the
relation `R`. -/
structure Alike (R : Session → Session → Prop) (e e' : Engine) : Prop where
  registry : e.registry = e'.registry
  dialect : e.config.dialect = e'.config.dialect
  autoescape : e.config.autoescape = e'.config.autoescape
  maxDepth : e.config.maxDepth = e'.config.maxDepth
  fetch : ∀ name {σ σ'}, R σ σ' → Render.Fetched .any R (e.fetch name σ) (e'.fetch name σ')

variable {e' : Engine} {R : Session → Session → Prop} {σ' : Session}

/-- Nothing is asked of what a filter gives. -/
lemma clean_filtered (e : Engine) {name : String} {f : Filter} {v : Value} {args : List Value}
    {w : Value} (_ : Render.Policy.any.admits (.filter name))
    (_ : e.registry.filter? name = some f) (_ : Render.Policy.any.Clean v)
    (_ : ∀ a ∈ args, Render.Policy.any.Clean a) (_ : f.apply v args = .ok w) :
    Render.Policy.any.Clean w :=
  Value.clean_of_forall (fun _ => trivial) w

/-- Runs of two engines that are alike; they see the same variables. -/
def Alike.coupling (h : Alike R e e') (vars : Dict Value) : Render.Coupling where
  policy := .any
  env := ⟨e, vars⟩
  env' := ⟨e', vars⟩
  base := 0
  base' := 0
  rooted := True
  ahead := False
  sessions := R
  registry := h.registry
  maxDepth := h.maxDepth
  root _ := ⟨rfl, Value.clean_of_forall (fun _ => trivial) _⟩
  filter := clean_filtered e
  fetch := h.fetch

lemma Alike.states_initial (h : Alike R e e') (vars : Dict Value) (t : Template) :
    (h.coupling vars).States (.initial ⟨e, vars⟩ t) (.initial ⟨e', vars⟩ t) where
  size := ⟨0, rfl, rfl⟩
  scopes hx := by cases hx
  here := .root trivial
  autoescape := h.autoescape
  mode := trivial
  overrides := rfl
  owners := List.forall_mem_nil _
  imports := rfl
  modules := List.forall_mem_nil _
  active := rfl
  callers := .nil
  macroDepth := rfl

/-- Two actions with the same result, from sessions in the relation `R` to such sessions. -/
def Agrees {α : Type} (R : Session → Session → Prop) (act act' : StateM Session α) : Prop :=
  ∀ ⦃σ σ'⦄, R σ σ' → (act σ).1 = (act' σ').1 ∧ R (act σ).2 (act' σ').2

/-- Engines that are alike render every template to the same text or fail with the same error. -/
theorem Alike.render (h : Alike R e e') (t : Template) (vars : Dict Value) :
    Agrees R (e.render t vars) (e'.render t vars) := by
  intro σ σ' hσ
  have hcalling := Render.Coupling.calling_callsAt (h.coupling vars)
    (Or.inl (Eq.refl (Render.fuelFor e.config.maxDepth)))
  have hends := hcalling.render (t := t) (fun _ _ => trivial) (h.states_initial vars t) hσ
  unfold Engine.render Render.run
  rw [← h.maxDepth]
  rcases hends.cases with ⟨out, _, u, u', τ, τ', hr, hr', ⟨rfl, -⟩, -, -, hτ⟩ |
    ⟨err, τ, τ', hr, hr', -, hτ⟩ | ⟨_, -, ⟨⟩⟩
  · simp only [coupling] at hr hr'
    simp only [hr, hr']
    exact ⟨rfl, hτ⟩
  · simp only [coupling] at hr hr'
    simp only [hr, hr']
    cases err with
    | error err => exact ⟨rfl, hτ⟩
    | outOfFuel => exact ⟨rfl, hτ⟩

lemma renderNamed_eq (e : Engine) (name : String) (vars : Dict Value) (σ : Session) :
    e.renderNamed name vars σ =
      match e.fetch name σ with
      | (.ok l, σ) => e.render l.template vars σ
      | (.error err, σ) => (.error (.ofFetch err), σ) := by
  unfold renderNamed
  simp only [bind, StateT.bind]
  rcases e.fetch name σ with ⟨err | l, τ⟩
  · rfl
  · rfl

lemma Alike.renderNamed (h : Alike R e e') (name : String) (vars : Dict Value) :
    Agrees R (e.renderNamed name vars) (e'.renderNamed name vars) := by
  intro σ σ' hσ
  rw [renderNamed_eq, renderNamed_eq]
  have hfetched := h.fetch name hσ
  generalize e.fetch name σ = r at hfetched ⊢
  generalize e'.fetch name σ' = r' at hfetched ⊢
  cases hfetched with
  | ok htemplate _ hτ =>
    simp only [← htemplate]
    exact h.render _ vars hτ
  | error hτ => exact ⟨rfl, hτ⟩

lemma Alike.renderText (h : Alike R e e') (source : String) (vars : Dict Value) :
    Agrees R (e.renderText source vars) (e'.renderText source vars) := by
  unfold Engine.renderText compile
  rw [h.registry, h.dialect]
  cases Template.ofSource e'.registry e'.config.dialect none source with
  | error err => exact fun _ _ hσ => ⟨rfl, hσ⟩
  | ok t => exact h.render t vars

end Engine
end Stencil
