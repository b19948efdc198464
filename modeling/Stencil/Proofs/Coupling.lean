import Stencil.Proofs.Parts
import Stencil.Proofs.SafeText
import Stencil.Render.Template

/-! Two runs side by side. A coupling says in what their states may differ: each run has scopes
that its code cannot reach, below a base of its own, and a session of its own. All else is the
same in both, and the texts in it are those that a policy admits. A single run is coupled with
itself. -/
namespace Stencil.Render

/-- Which parts templates may have. Text has to stay admitted when it is joined and printed. -/
structure Policy where
  admits : Part → Prop
  text_empty : admits (.text "")
  text_append : ∀ {s t}, admits (.text s) → admits (.text t) → admits (.text (s ++ t))
  text_printed : ∀ {mode v}, admits (.autoescape mode) →
    Value.Clean (fun s => admits (.text s)) v → admits (.text (printed mode v))

namespace Policy

/-- Every part. -/
def any : Policy where
  admits _ := True
  text_empty := trivial
  text_append _ _ := trivial
  text_printed _ _ := trivial

variable (p : Policy)

def Text (s : String) : Prop := p.admits (.text s)

/-- The safe texts in the value are admitted. -/
abbrev Clean (v : Value) : Prop := v.Clean p.Text

def Covers (parts : List Part) : Prop := ∀ x ∈ parts, p.admits x

variable {p}

lemma covers_append {a b : List Part} : p.Covers (a ++ b) ↔ p.Covers a ∧ p.Covers b :=
  List.forall_mem_append

lemma covers_cons {x : Part} {a : List Part} :
    p.Covers (x :: a) ↔ p.admits x ∧ p.Covers a :=
  List.forall_mem_cons

end Policy

/-- What the two engines answer to a request for a template. -/
inductive Fetched (p : Policy) (sessions : Session → Session → Prop) :
    Except FetchError Loaded × Session → Except FetchError Loaded × Session → Prop where
  | ok {l l' : Loaded} {σ σ' : Session} (template : l.template = l'.template)
      (within : l.template.Within p.admits) (session : sessions σ σ') :
      Fetched p sessions (.ok l, σ) (.ok l', σ')
  | error {e : FetchError} {σ σ' : Session} (session : sessions σ σ') :
      Fetched p sessions (.error e, σ) (.error e, σ')

/-- What two runs have in common. -/
structure Coupling where
  policy : Policy
  env : Env
  env' : Env
  /-- The number of scopes out of reach. -/
  base : Nat
  base' : Nat
  /-- Whether the code can reach the variables of the caller of the engine. -/
  rooted : Prop
  /-- Whether the second run may have more fuel. -/
  ahead : Prop
  sessions : Session → Session → Prop
  registry : env.engine.registry = env'.engine.registry
  maxDepth : env.engine.config.maxDepth = env'.engine.config.maxDepth
  root : rooted → env.root = env'.root ∧ policy.Clean (.map env.root)
  filter : ∀ {name f v args w}, policy.admits (.filter name) →
    env.engine.registry.filter? name = some f → policy.Clean v →
    (∀ a ∈ args, policy.Clean a) → f.apply v args = .ok w → policy.Clean w
  fetch : ∀ path {σ σ'}, sessions σ σ' →
    Fetched policy sessions (env.engine.fetch path σ) (env'.engine.fetch path σ')

namespace Coupling

variable (c : Coupling)

/-- Links that lead to the same variables. -/
inductive Links : Link → Link → Prop where
  | scope (k : Nat) : Links (.scope (c.base + k)) (.scope (c.base' + k))
  | root (h : c.rooted) : Links .root .root
  | isolated : Links .isolated .isolated

structure Scopes (x x' : Scope) : Prop where
  vars : x.vars = x'.vars
  clean : c.policy.Clean (.map x.vars)
  parent : c.Links x.parent x'.parent

structure Callers (k k' : Caller) : Prop where
  body : k.body = k'.body
  template : k.template = k'.template
  imports : k.imports = k'.imports
  scope : c.Links k.scope k'.scope
  covers : c.policy.Covers (Instr.partsAll k.body)
  within : k.template.Within c.policy.admits
  modules : ∀ e ∈ k.imports, e.2.Within c.policy.admits

/-- States of the two runs at the same point of the code. -/
structure States (s s' : State) : Prop where
  size : ∃ n, s.scopes.size = c.base + n ∧ s'.scopes.size = c.base' + n
  scopes : ∀ {k x x'}, s.scopes[c.base + k]? = some x → s'.scopes[c.base' + k]? = some x' →
    c.Scopes x x'
  here : c.Links s.here s'.here
  autoescape : s.autoescape = s'.autoescape
  mode : c.policy.admits (.autoescape s.autoescape)
  overrides : s.overrides = s'.overrides
  owners : ∀ e ∈ s.overrides, e.2.Within c.policy.admits
  imports : s.imports = s'.imports
  modules : ∀ e ∈ s.imports, e.2.Within c.policy.admits
  active : s.active = s'.active
  callers : List.Forall₂ c.Callers s.callers s'.callers
  macroDepth : s.macroDepth = s'.macroDepth

/-- How runs may stop: an unknown name is one that the policy admits and no engine knows. -/
def Stops : Stop → Prop
  | .error (.unknownFilter name _) =>
    c.policy.admits (.filter name) ∧ c.env.engine.registry.hasFilter name = false
  | .error (.unknownTest name _) =>
    c.policy.admits (.test name) ∧ c.env.engine.registry.hasTest name = false
  | _ => True

/-- Ends of two runs of which the first began in the state `s`. Scopes may stay open. Nothing is
said of a second run that goes on with fuel when the first has none. -/
inductive Ends {α β : Type} (V : α → β → Prop) (s : State) :
    Except Stop (α × State) × Session → Except Stop (β × State) × Session → Prop where
  | ok {a b t t' σ σ'} (value : V a b) (states : c.States t t')
      (size : s.scopes.size ≤ t.scopes.size) (session : c.sessions σ σ') :
      Ends V s (.ok (a, t), σ) (.ok (b, t'), σ')
  | error {e σ σ'} (stops : c.Stops e) (session : c.sessions σ σ') :
      Ends V s (.error e, σ) (.error e, σ')
  | spent {σ r'} (h : c.ahead) : Ends V s (.error .outOfFuel, σ) r'

/-- The two actions end alike, with results in the relation `V`. -/
def Lockstep {α β : Type} (V : α → β → Prop) (x : RenderM α) (y : RenderM β) : Prop :=
  ∀ ⦃s s' σ σ'⦄, c.States s s' → c.sessions σ σ' →
    c.Ends V s ((x.run s).run σ) ((y.run s').run σ')

/-- The two actions end alike, with the same result, which satisfies `Q`. -/
abbrev Agree {α : Type} (Q : α → Prop) (x y : RenderM α) : Prop :=
  c.Lockstep (fun a b => a = b ∧ Q a) x y

end Coupling

/-! ### Running composed actions -/

variable {α β : Type} {s t : State} {σ τ : Session}

lemma run_bind_ok {x : RenderM α} {a : α} (f : α → RenderM β)
    (h : (x.run s).run σ = (.ok (a, t), τ)) :
    ((x >>= f).run s).run σ = ((f a).run t).run τ := by
  simp only [StateT.run, bind, StateT.bind, ExceptT.bind, ExceptT.run, ExceptT.mk,
    ExceptT.bindCont] at *
  rw [h]

lemma run_bind_error {x : RenderM α} {e : Stop} (f : α → RenderM β)
    (h : (x.run s).run σ = (.error e, τ)) : ((x >>= f).run s).run σ = (.error e, τ) := by
  simp only [StateT.run, bind, StateT.bind, ExceptT.bind, ExceptT.run, ExceptT.mk,
    ExceptT.bindCont] at *
  rw [h]
  rfl

lemma run_bind_get (f : State → RenderM β) :
    ((MonadState.get >>= f).run s).run σ = ((f s).run s).run σ := rfl

lemma run_bind_modify (g : State → State) (f : PUnit → RenderM β) :
    ((modify g >>= f).run s).run σ = ((f ⟨⟩).run (g s)).run σ := rfl

lemma run_fail_bind {e : RenderError} (f : α → RenderM β) :
    (((fail e : RenderM α) >>= f).run s).run σ = (.error (.error e), σ) := rfl

namespace Coupling

variable {c : Coupling} {γ δ : Type} {V : α → β → Prop} {W : γ → δ → Prop} {Q : α → Prop}

lemma Ends.cases {r : Except Stop (α × State) × Session} {r' : Except Stop (β × State) × Session}
    (h : c.Ends V s r r') :
    (∃ a b t t' τ τ', r = (.ok (a, t), τ) ∧ r' = (.ok (b, t'), τ') ∧ V a b ∧ c.States t t' ∧
      s.scopes.size ≤ t.scopes.size ∧ c.sessions τ τ') ∨
    (∃ e τ τ', r = (.error e, τ) ∧ r' = (.error e, τ') ∧ c.Stops e ∧ c.sessions τ τ') ∨
    (∃ τ, r = (.error .outOfFuel, τ) ∧ c.ahead) := by
  cases h with
  | ok hv ht hsize hτ => exact .inl ⟨_, _, _, _, _, _, rfl, rfl, hv, ht, hsize, hτ⟩
  | error hstop hτ => exact .inr (.inl ⟨_, _, _, rfl, rfl, hstop, hτ⟩)
  | spent h => exact .inr (.inr ⟨_, rfl, h⟩)

namespace Lockstep

lemma pure {a : α} {b : β} (h : V a b) : c.Lockstep V (Pure.pure a) (Pure.pure b) :=
  fun _ _ _ _ hs hσ => .ok h hs (Nat.le_refl _) hσ

lemma bind {x : RenderM α} {y : RenderM β} {f : α → RenderM γ} {g : β → RenderM δ}
    (hx : c.Lockstep V x y) (hf : ∀ a b, V a b → c.Lockstep W (f a) (g b)) :
    c.Lockstep W (x >>= f) (y >>= g) := by
  intro s s' σ σ' hs hσ
  rcases (hx hs hσ).cases with ⟨a, b, t, t', τ, τ', hr, hr', hv, ht, hsize, hτ⟩ |
    ⟨e, τ, τ', hr, hr', hstop, hτ⟩ | ⟨τ, hr, hspent⟩
  · rw [run_bind_ok f hr, run_bind_ok g hr']
    rcases (hf a b hv ht hτ).cases with ⟨a, b, u, u', υ, υ', hu, hu', hw, hs', hsize', hυ⟩ |
      ⟨e, υ, υ', hu, hu', hstop, hυ⟩ | ⟨υ, hu, hspent⟩
    · rw [hu, hu']
      exact .ok hw hs' (Nat.le_trans hsize hsize') hυ
    · rw [hu, hu']
      exact .error hstop hυ
    · rw [hu]
      exact .spent hspent
  · rw [run_bind_error f hr, run_bind_error g hr']
    exact .error hstop hτ
  · rw [run_bind_error f hr]
    exact .spent hspent

lemma get : c.Lockstep c.States MonadState.get MonadState.get :=
  fun _ _ _ _ hs hσ => .ok hs hs (Nat.le_refl _) hσ

/-- A change that keeps the states coupled and closes no scope. -/
lemma update {f g : State → State} (h : ∀ {s s'}, c.States s s' → c.States (f s) (g s'))
    (hsize : ∀ s, s.scopes.size ≤ (f s).scopes.size) :
    c.Agree (fun _ => True) (modify f : RenderM Unit) (modify g) :=
  fun _ _ _ _ hs hσ => .ok ⟨rfl, trivial⟩ (h hs) (hsize _) hσ

end Lockstep

lemma Agree.pure {a : α} (h : Q a) : c.Agree Q (Pure.pure a) (Pure.pure a) :=
  Lockstep.pure ⟨rfl, h⟩

/-- Both runs go on with the same result. -/
lemma Agree.bind {x y : RenderM α} {f : α → RenderM γ} {g : α → RenderM δ} (hx : c.Agree Q x y)
    (hf : ∀ a, Q a → c.Lockstep W (f a) (g a)) : c.Lockstep W (x >>= f) (y >>= g) := by
  refine Lockstep.bind hx fun a b h => ?_
  obtain ⟨rfl, h⟩ := h
  exact hf a h

lemma agree_throw {e : Stop} (h : c.Stops e) : c.Agree Q (throw e) (throw e) :=
  fun _ _ _ _ _ hσ => .error h hσ

end Coupling

end Stencil.Render
