import Stencil.Engine.Render
import Stencil.Proofs.CoupledInstr

/-! What a macro gives depends on its arguments, not on the variables around its call. -/
namespace Stencil.Render

/-- Nothing but variables and their nesting may differ, and no call block waits. -/
structure State.Alike (s s' : State) : Prop where
  autoescape : s.autoescape = s'.autoescape
  overrides : s.overrides = s'.overrides
  imports : s.imports = s'.imports
  active : s.active = s'.active
  macroDepth : s.macroDepth = s'.macroDepth
  callers : s.callers = []
  callers' : s'.callers = []

lemma State.Alike.symm {s s' : State} (h : s.Alike s') : s'.Alike s :=
  ⟨h.autoescape.symm, h.overrides.symm, h.imports.symm, h.active.symm, h.macroDepth.symm,
    h.callers', h.callers⟩

/-- Two runs of one engine that reach neither the scopes that are there nor the variables of the
callers of the engine. -/
def Coupling.isolated (e : Engine) (root root' : Dict Value) (base base' : Nat) (ahead : Prop) :
    Coupling where
  policy := .any
  env := ⟨e, root⟩
  env' := ⟨e, root'⟩
  base
  base'
  rooted := False
  ahead
  sessions := Eq
  registry := rfl
  maxDepth := rfl
  root := False.elim
  filter _ _ _ _ _ := Value.clean_of_forall (fun _ => trivial) _
  fetch path := by
    rintro σ _ rfl
    generalize e.fetch path σ = r
    obtain ⟨l | l, τ⟩ := r
    · exact .error rfl
    · exact .ok rfl (fun _ _ => trivial) rfl

variable {e : Engine} {root root' : Dict Value} {s s' : State}

/-- All that isolated code can reach is its own scope. -/
lemma State.Alike.isolated (h : s.Alike s') (ahead : Prop) :
    (Coupling.isolated e root root' s.scopes.size s'.scopes.size ahead).States
      { s with
        macroDepth := s.macroDepth + 1
        scopes := s.scopes.push ⟨[], .isolated⟩, current := some s.scopes.size }
      { s' with
        macroDepth := s'.macroDepth + 1
        scopes := s'.scopes.push ⟨[], .isolated⟩, current := some s'.scopes.size } where
  size := ⟨1, Array.size_push _, Array.size_push _⟩
  scopes {k x x'} hx hx' := by
    change (s.scopes.push ⟨[], .isolated⟩)[s.scopes.size + k]? = some x at hx
    change (s'.scopes.push ⟨[], .isolated⟩)[s'.scopes.size + k]? = some x' at hx'
    cases k with
    | zero =>
      rw [Nat.add_zero, Array.getElem?_push_size] at hx hx'
      cases hx
      cases hx'
      exact ⟨rfl, Coupling.clean_no_variables, .isolated⟩
    | succ k =>
      rw [Array.getElem?_eq_none (by rw [Array.size_push]; omega)] at hx
      cases hx
  here := .scope 0
  autoescape := h.autoescape
  mode := trivial
  overrides := h.overrides
  owners _ _ _ _ := trivial
  imports := h.imports
  modules _ _ _ _ _ _ := trivial
  active := h.active
  callers := by
    change List.Forall₂ _ s.callers s'.callers
    rw [h.callers, h.callers']
    exact .nil
  macroDepth := congrArg (· + 1) h.macroDepth

/-- The result of a run and the session after it, without the state. -/
def outcome {α : Type} (r : Except Stop (α × State) × Session) : Except Stop α × Session :=
  (r.1.map Prod.fst, r.2)

/-- What a macro gives that is called without a call block. -/
def invoke (env : Env) (fuel : Nat) (t : Template) (m : MacroDef) (args : List Value)
    (pos : Position) (s : State) (σ : Session) : Except Stop Value × Session :=
  outcome (((callMacro env (callsAt env fuel) t m args none pos).run s).run σ)

variable {t : Template} {m : MacroDef} {args : List Value} {pos : Position} {σ : Session}
  {n n' : Nat}

lemma outcome_runMacro (h : s.Alike s') (ahead : Prop) (hn : n = n' ∨ ahead ∧ n ≤ n') :
    outcome (((runMacro (callsAt ⟨e, root⟩ n) t m args pos).run s).run σ) =
      outcome (((runMacro (callsAt ⟨e, root'⟩ n') t m args pos).run s').run σ) ∨
    ahead ∧
      (outcome (((runMacro (callsAt ⟨e, root⟩ n) t m args pos).run s).run σ)).1 =
        .error .outOfFuel := by
  have hcalling := Coupling.calling_callsAt
    (Coupling.isolated e root root' s.scopes.size s'.scopes.size ahead) hn
  have hany : ∀ x : Part, Policy.any.admits x := fun _ => trivial
  have hargs : ∀ a ∈ args, Policy.any.Clean a :=
    fun a _ => Value.clean_of_forall (fun _ => trivial) a
  have hbody := Coupling.agree_macroBody hcalling (fun x (_ : x ∈ t.parts) => hany x)
    (fun x (_ : x ∈ m.parts) => hany x) hargs pos
  unfold runMacro
  rw [run_bind_modify, run_bind_modify]
  rcases (hbody (h.isolated ahead) (Eq.refl σ)).cases with
    ⟨a, _, u, u', τ, _, hr, hr', ⟨rfl, -⟩, -, -, rfl⟩ | ⟨err, τ, _, hr, hr', -, rfl⟩ |
    ⟨τ, hr, hahead⟩
  · rw [run_bind_ok _ (run_inScope_ok hr), run_bind_ok _ (run_inScope_ok hr')]
    exact .inl rfl
  · rw [run_bind_error _ (run_inScope_error hr), run_bind_error _ (run_inScope_error hr')]
    exact .inl rfl
  · rw [run_bind_error _ (run_inScope_error hr)]
    exact .inr ⟨hahead, rfl⟩

/-- Whether the call is refused does not depend on variables either. -/
lemma invoke_eq_or_spent (h : s.Alike s') (ahead : Prop) (hn : n = n' ∨ ahead ∧ n ≤ n') :
    invoke ⟨e, root⟩ n t m args pos s σ = invoke ⟨e, root'⟩ n' t m args pos s' σ ∨
      ahead ∧ (invoke ⟨e, root⟩ n t m args pos s σ).1 = .error .outOfFuel := by
  unfold invoke callMacro
  by_cases harity : m.params.length < args.length
  · left
    simp only [if_pos harity, run_fail_bind]
  · simp only [if_neg harity, run_bind_get, ← h.macroDepth]
    by_cases hdepth : e.config.maxDepth ≤ s.macroDepth
    · left
      simp only [if_pos hdepth, run_fail_bind]
    · simp only [if_neg hdepth]
      exact outcome_runMacro h ahead hn

/-- A macro that ends well gives safe text. -/
lemma isSafe_of_invoke {env : Env} {v : Value} (hv : (invoke env n t m args pos s σ).1 = .ok v) :
    v.isSafe = true := by
  unfold invoke callMacro at hv
  by_cases harity : m.params.length < args.length
  · simp only [if_pos harity, run_fail_bind] at hv
    cases hv
  · simp only [if_neg harity, run_bind_get] at hv
    by_cases hdepth : env.engine.config.maxDepth ≤ s.macroDepth
    · simp only [if_pos hdepth, run_fail_bind] at hv
      cases hv
    · simp only [if_neg hdepth, runMacro, run_bind_modify] at hv
      generalize hact : inScope .isolated _ = act at hv
      rcases hr : (act.run { s with macroDepth := s.macroDepth + 1 }).run σ with ⟨err | ⟨o, u⟩, τ⟩
      · rw [run_bind_error _ hr] at hv
        cases hv
      · rw [run_bind_ok _ hr, run_bind_modify] at hv
        cases hv
        rfl

/-- Called without a call block, a macro gives the same safe text or the same failure from both
states, with the same fuel and with any fuel that suffices. -/
theorem invoke_eq_of_alike (h : s.Alike s') (e : Engine) (root root' : Dict Value) (t : Template)
    (m : MacroDef) (args : List Value) (pos : Position) (σ : Session) (n n' : Nat)
    (hn : n = n' ∨ (invoke ⟨e, root⟩ n t m args pos s σ).1 ≠ .error .outOfFuel ∧
      (invoke ⟨e, root'⟩ n' t m args pos s' σ).1 ≠ .error .outOfFuel) :
    invoke ⟨e, root⟩ n t m args pos s σ = invoke ⟨e, root'⟩ n' t m args pos s' σ ∧
      ∀ v, (invoke ⟨e, root⟩ n t m args pos s σ).1 = .ok v → v.isSafe = true := by
  refine ⟨?_, fun v hv => isSafe_of_invoke hv⟩
  rcases hn with hn | ⟨hr, hr'⟩
  · exact (invoke_eq_or_spent h False (.inl hn)).resolve_right And.left
  · -- The run with less fuel comes first; it is not the one that runs out.
    rcases Nat.le_total n n' with hn | hn
    · exact (invoke_eq_or_spent h True (.inr ⟨trivial, hn⟩)).resolve_right fun hs => hr hs.2
    · refine Eq.symm ?_
      exact (invoke_eq_or_spent h.symm True (.inr ⟨trivial, hn⟩)).resolve_right fun hs => hr' hs.2

/-- A macro that asks for variables of its caller, in a default and in its body. -/
def curious : MacroDef where
  name := "curious"
  params := [⟨"x", none⟩, ⟨"d", some (.var "z")⟩]
  body := [.print (.var "x") .start, .print (.var "d") .start, .print (.var "y") .start]

/-- Inside a scope with `y`, with `z` given to the engine. -/
def nested : State where
  scopes := #[⟨[("y", .int 1)], .root⟩]
  current := some 0
  autoescape := true

theorem invoke_curious_eq :
    let t : Template := ⟨none, .native, [], [("curious", curious)], [], none⟩
    let inside := invoke ⟨Engine.default, [("z", .int 2)]⟩ 2 t curious [.str "<"] .start nested {}
    let outside :=
      invoke ⟨Engine.default, []⟩ 2 t curious [.str "<"] .start { autoescape := true } {}
    inside.1.toOption.map Value.display = some "&lt;" ∧ inside = outside := by
  intro t inside outside
  have halike : nested.Alike { autoescape := true } := ⟨rfl, rfl, rfl, rfl, rfl, rfl, rfl⟩
  refine ⟨by decide +kernel, ?_⟩
  exact (invoke_eq_of_alike halike Engine.default _ _ t curious [.str "<"] .start {} 2 2
    (.inl rfl)).1

end Stencil.Render
