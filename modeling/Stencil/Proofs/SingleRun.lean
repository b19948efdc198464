import Stencil.Engine.Render
import Stencil.Proofs.CoupledInstr
import Stencil.Proofs.Kept

/-! One run, coupled with itself: what a policy promises of the output and of the failures of a
render, and of the templates that the engine keeps. -/
namespace Stencil

/-- All templates that are kept satisfy `A`. -/
def Session.Within (A : Part → Prop) (σ : Session) : Prop :=
  ∀ e ∈ σ.cache.entries, e.2.template.Within A

namespace Engine

/-- All templates that the loader can supply satisfy `A`. -/
def Supplies (e : Engine) (A : Part → Prop) : Prop :=
  ∀ load path source t, e.loader = some load → load path = .ok source →
    e.compile e.config.dialect (some path) source = .ok t → t.Within A

variable {A : Part → Prop} {σ : Session}

lemma supplies_ofDict {e : Engine} {templates : Dict String}
    (hloader : e.loader = some (.ofDict templates))
    (h : ∀ p ∈ templates, ∀ t ∈ (e.compile e.config.dialect (some p.1) p.2).toOption, t.Within A) :
    e.Supplies A := by
  intro load path source t hload hsource ht
  rw [hloader] at hload
  cases hload
  unfold Loader.ofDict at hsource
  split at hsource
  · rename_i s hs
    cases hsource
    refine h _ (Dict.mem_of_get? hs) t ?_
    rw [ht]
    rfl
  · cases hsource

/-- Fetching supplies and keeps only templates that satisfy `A`. -/
lemma within_fetch {e : Engine} (he : e.Supplies A) (hσ : σ.Within A) (path : String) :
    (∀ l, (e.fetch path σ).1 = .ok l → l.template.Within A) ∧ (e.fetch path σ).2.Within A :=
  all_fetch he hσ path

end Engine

namespace Render

variable {p : Policy} {A : Part → Prop} {env : Env} {σ : Session} {t : Template}

/-- What a policy needs of an engine that supplies templates within `A`, and of the variables of
its caller. -/
structure Policy.Governs (p : Policy) (A : Part → Prop) (env : Env) : Prop where
  root : p.Clean (.map env.root)
  filter : ∀ {name f v args w}, p.admits (.filter name) →
    env.engine.registry.filter? name = some f → p.Clean v → (∀ a ∈ args, p.Clean a) →
    f.apply v args = .ok w → p.Clean w
  supplies : env.engine.Supplies A
  admits : ∀ x, A x → p.admits x
  mode : p.admits (.autoescape env.engine.config.autoescape)

/-- A run coupled with itself. -/
def Coupling.single (h : p.Governs A env) : Coupling where
  policy := p
  env
  env' := env
  base := 0
  base' := 0
  rooted := True
  ahead := False
  sessions σ σ' := σ = σ' ∧ σ.Within A
  registry := rfl
  maxDepth := rfl
  root _ := ⟨rfl, h.root⟩
  filter := h.filter
  fetch path := by
    rintro σ _ ⟨rfl, hσ⟩
    obtain ⟨htemplate, hkept⟩ := Engine.within_fetch h.supplies hσ path
    generalize env.engine.fetch path σ = r at htemplate hkept
    obtain ⟨l | l, τ⟩ := r
    · exact .error ⟨rfl, hkept⟩
    · exact .ok rfl ((htemplate _ rfl).mono h.admits) ⟨rfl, hkept⟩

lemma Policy.Governs.states_initial (h : p.Governs A env) (t : Template) :
    (Coupling.single h).States (State.initial env t) (State.initial env t) where
  size := ⟨0, rfl, rfl⟩
  scopes hx := by cases hx
  here := .root trivial
  autoescape := rfl
  mode := h.mode
  overrides := rfl
  owners := List.forall_mem_nil _
  imports := rfl
  modules := List.forall_mem_nil _
  active := rfl
  callers := .nil
  macroDepth := rfl

/-- How a run ends that a policy governs. -/
lemma Policy.Governs.run (h : p.Governs A env) (ht : t.Within p.admits) (hσ : σ.Within A)
    (fuel : Nat) :
    (∀ out, (run env fuel t σ).1 = .ok out → p.Text out) ∧
      (∀ e, (run env fuel t σ).1 = .error e → (Coupling.single h).Stops e) ∧
      (run env fuel t σ).2.Within A := by
  unfold Render.run
  have hcalling := Coupling.calling_callsAt (Coupling.single h) (Or.inl (Eq.refl fuel))
  have hrun := hcalling.render ht (h.states_initial t) ⟨rfl, hσ⟩
  rcases hrun.cases with ⟨out, _, u, _, τ, _, hr, -, ⟨-, ho⟩, -, -, -, hτ⟩ |
    ⟨e, τ, _, hr, -, hstop, -, hτ⟩ | ⟨_, -, ⟨⟩⟩
  · change (((callsAt env fuel).render t).run (State.initial env t)).run σ = _ at hr
    rw [hr]
    refine ⟨?_, nofun, hτ⟩
    rintro _ ⟨⟩
    exact ho
  · change (((callsAt env fuel).render t).run (State.initial env t)).run σ = _ at hr
    rw [hr]
    refine ⟨nofun, ?_, hτ⟩
    rintro _ ⟨⟩
    exact hstop

/-- How a render ends that a policy governs. A render whose fuel is spent fails too. -/
lemma Policy.Governs.render {e : Engine} {vars : Dict Value} (h : p.Governs A ⟨e, vars⟩)
    (ht : t.Within p.admits) (hσ : σ.Within A) :
    (∀ out, (e.render t vars σ).1 = .ok out → p.Text out) ∧
      (∀ err, (e.render t vars σ).1 = .error (.render err) →
        (Coupling.single h).Stops (.error err)) ∧
      (e.render t vars σ).2.Within A := by
  obtain ⟨hok, herror, hτ⟩ := h.run ht hσ (fuelFor e.config.maxDepth)
  unfold Engine.render
  generalize Render.run ⟨e, vars⟩ (fuelFor e.config.maxDepth) t σ = r at hok herror hτ
  obtain ⟨(err | _) | out, τ⟩ := r
  · refine ⟨nofun, ?_, hτ⟩
    rintro _ ⟨⟩
    exact herror _ rfl
  · refine ⟨nofun, ?_, hτ⟩
    rintro _ ⟨⟩
    trivial
  · refine ⟨?_, nofun, hτ⟩
    rintro _ ⟨⟩
    exact hok _ rfl

end Render

end Stencil
