import Stencil.Proofs.Coupling
import Stencil.Proofs.CoupledState
import Stencil.Proofs.Kept
import Stencil.Proofs.Reference

/-! A run and its mirror image. The second run is in the same state as the first, but for its table
of overrides, at which it does not look. A scene says what is around the code that runs: code
leaves it as it was found. Every claim about a pair of runs excludes that fuel is spent. -/
namespace Stencil

namespace Instr

mutual

/-- The aliases under which an instruction imports templates into the imports that it runs with.
The body of a call block runs with imports of its own. -/
def aliases : Instr → List String
  | .importing _ asName _ => [asName]
  | .branch _ body otherwise _ | .forEach _ _ body otherwise _ =>
    aliasesAll body ++ aliasesAll otherwise
  | .scoped _ body _ | .autoescape _ body | .filtered _ body _ => aliasesAll body
  | .text _ | .print _ _ | .callBlock _ _ _ _ | .assign _ _ _ | .block _ | .including _ _
  | .exitLoop _ | .nextItem _ => []

def aliasesAll : List Instr → List String
  | [] => []
  | i :: more => aliases i ++ aliasesAll more

end

end Instr

/-- No block and no macro of the template imports anything under the alias. -/
structure Template.Spares (asName : String) (t : Template) : Prop where
  macros : ∀ m ∈ t.macros, asName ∉ Instr.aliasesAll m.2.body
  blocks : ∀ b ∈ t.blocks, asName ∉ Instr.aliasesAll b.2

namespace Render

/-- The template of a module and all that it imports satisfy `P`. -/
def Module.All (P : Template → Prop) (m : Module) : Prop := ∀ t ∈ m.templates, P t

variable {P : Template → Prop}

lemma Module.all_mk {t : Template} {imports : List (String × Module)} :
    (Module.mk t imports).All P ↔ P t ∧ ∀ e ∈ imports, e.2.All P := by
  simp only [All, templates, List.forall_mem_cons, mem_templatesAll]
  refine and_congr_right fun _ => ⟨fun h e he t ht => h t ⟨e, he, ht⟩, ?_⟩
  rintro h t ⟨e, he, ht⟩
  exact h e he t ht

lemma Module.All.template {m : Module} (h : m.All P) : P m.template := by
  cases m
  exact (all_mk.mp h).1

lemma Module.All.imports {m : Module} (h : m.All P) : ∀ e ∈ m.imports, e.2.All P := by
  cases m
  exact (all_mk.mp h).2

/-- What stays the same while templates run: the engine and what holds of every template. -/
structure World where
  env : Env
  admits : Template → Prop
  layered : ∀ {t}, admits t → t.Layered
  fetch : ∀ path {σ : Session}, σ.All admits →
    (∀ l, (env.engine.fetch path σ).1 = .ok l → admits l.template) ∧
      (env.engine.fetch path σ).2.All admits

/-- What is around running code, which leaves it as it was: the templates before it in the chain,
parts of its state, and perhaps an import that is known to stay. -/
structure Scene where
  derived : List Template
  overrides : Dict Template
  active : List String
  callers : List Caller
  macroDepth : Nat
  pin : Option (String × Module)

/-- The scene without the import that is known to stay. -/
def Scene.unpinned (c : Scene) : Scene := { c with pin := none }

namespace World

variable (W : World)

def maxDepth : Nat := W.env.engine.config.maxDepth

/-- The body of a call block may be placed anywhere. -/
structure Places (k : Caller) : Prop where
  template : W.admits k.template
  own : ∀ b ∈ Instr.placedAll k.body, Dict.contains k.template.blocks b = true
  imports : ∀ e ∈ k.imports, e.2.All W.admits

/-- Scenes in which code may run. -/
structure Valid (c : Scene) : Prop where
  overrides : ∀ name, Dict.get? c.overrides name =
    c.derived.find? fun d => Dict.contains d.blocks name
  derived : ∀ d ∈ c.derived, W.admits d
  callers : ∀ k ∈ c.callers, W.Places k
  length : c.derived.length ≤ c.active.length + 1
  active : c.active.length ≤ W.maxDepth + 1
  spares : ∀ p ∈ c.pin, ∀ t, W.admits t → t.Spares p.1

/-- States in which the scene is what the code finds. -/
structure Holds (c : Scene) (s : State) : Prop where
  overrides : s.overrides = c.overrides
  active : s.active = c.active
  callers : s.callers = c.callers
  macroDepth : s.macroDepth = c.macroDepth
  imports : ∀ e ∈ s.imports, e.2.All W.admits
  pin : ∀ p ∈ c.pin, Dict.get? s.imports p.1 = some p.2

end World

/-- The second state is the first with other overrides. -/
def State.Mirrored (s s' : State) : Prop := ∃ overrides, s' = { s with overrides }

namespace World

variable (W : World) {α β γ : Type}

/-- Ends of two runs: both with the same result, or both with the same error. -/
inductive Ends (P : State → Prop) (Q : α → Prop) :
    Except Stop (α × State) × Session → Except Stop (α × State) × Session → Prop where
  | ok {a t t' σ} (result : Q a) (state : P t) (mirrored : t.Mirrored t')
      (session : σ.All W.admits) : Ends P Q (.ok (a, t), σ) (.ok (a, t'), σ)
  | error {e σ} (session : σ.All W.admits) : Ends P Q (.error (.error e), σ) (.error (.error e), σ)

/-- From a state that satisfies `P` and its mirror image the two actions end alike, with a result
that satisfies `Q` in a state that satisfies `P'`. -/
def Steps (P P' : State → Prop) (Q : α → Prop) (x y : RenderM α) : Prop :=
  ∀ ⦃s s' σ⦄, P s → s.Mirrored s' → σ.All W.admits →
    W.Ends P' Q ((x.run s).run σ) ((y.run s').run σ)

/-- The two actions end alike and leave the scene as it was. -/
abbrev Mirrors (c : Scene) (Q : α → Prop) (x y : RenderM α) : Prop :=
  W.Steps (W.Holds c) (W.Holds c) Q x y

variable {W} {P P' M : State → Prop} {Q : α → Prop} {R : β → Prop} {c : Scene} {s s' : State}
  {σ : Session}

lemma Ends.cases {r r' : Except Stop (α × State) × Session} (h : W.Ends P Q r r') :
    (∃ a t t' τ, r = (.ok (a, t), τ) ∧ r' = (.ok (a, t'), τ) ∧ Q a ∧ P t ∧ t.Mirrored t' ∧
      τ.All W.admits) ∨
    ∃ e τ, r = (.error (.error e), τ) ∧ r' = (.error (.error e), τ) ∧ τ.All W.admits := by
  cases h with
  | ok hq hp hm hτ => exact .inl ⟨_, _, _, _, rfl, rfl, hq, hp, hm, hτ⟩
  | error hτ => exact .inr ⟨_, _, rfl, rfl, hτ⟩

namespace Steps

lemma pure {a : α} (h : Q a) : W.Steps P P Q (Pure.pure a) (Pure.pure a) :=
  fun _ _ _ hs hm hσ => .ok h hs hm hσ

lemma bind {x y : RenderM α} {f g : α → RenderM β} (hx : W.Steps P M Q x y)
    (hf : ∀ a, Q a → W.Steps M P' R (f a) (g a)) : W.Steps P P' R (x >>= f) (y >>= g) := by
  intro s s' σ hs hm hσ
  rcases (hx hs hm hσ).cases with ⟨a, t, t', τ, hr, hr', hq, ht, hm, hτ⟩ | ⟨e, τ, hr, hr', hτ⟩
  · rw [run_bind_ok f hr, run_bind_ok g hr']
    exact hf a hq ht hm hτ
  · rw [run_bind_error f hr, run_bind_error g hr']
    exact .error hτ

lemma mono {Q' : α → Prop} {x y : RenderM α} (h : W.Steps P M Q x y)
    (hQ : ∀ a, Q a → Q' a) (hP : ∀ s, M s → P' s) : W.Steps P P' Q' x y := by
  intro s s' σ hs hm hσ
  rcases (h hs hm hσ).cases with ⟨a, t, t', τ, hr, hr', hq, ht, hm, hτ⟩ | ⟨e, τ, hr, hr', hτ⟩
  · rw [hr, hr']
    exact .ok (hQ a hq) (hP t ht) hm hτ
  · rw [hr, hr']
    exact .error hτ

/-- Both runs go on with what they find in their states. -/
lemma get_bind {f g : State → RenderM β}
    (h : ∀ s s', P s → s.Mirrored s' → W.Steps P P' R (f s) (g s')) :
    W.Steps P P' R (MonadState.get >>= f) (MonadState.get >>= g) :=
  fun s s' _ hs hm hσ => h s s' hs hm hs hm hσ

/-- Only the first run looks at its state. -/
lemma get_left {f : State → RenderM β} {y : RenderM β}
    (h : ∀ s, P s → W.Steps P P' R (f s) y) : W.Steps P P' R (MonadState.get >>= f) y :=
  fun s _ _ hs hm hσ => h s hs hs hm hσ

/-- Only the second run looks at its state. -/
lemma get_right {x : RenderM β} {f : State → RenderM β}
    (h : ∀ s s', P s → s.Mirrored s' → W.Steps P P' R x (f s')) :
    W.Steps P P' R x (MonadState.get >>= f) :=
  fun s s' _ hs hm hσ => h s s' hs hm hs hm hσ

lemma update {f g : State → State} (hP : ∀ s, P s → P' (f s))
    (hm : ∀ s s', s.Mirrored s' → (f s).Mirrored (g s')) :
    W.Steps P P' (fun _ => True) (modify f : RenderM Unit) (modify g) :=
  fun _ _ _ hs hss hσ => .ok trivial (hP _ hs) (hm _ _ hss) hσ

/-- Both runs change their states in the same way. -/
lemma modify_bind {f : State → State} {x y : PUnit → RenderM β} (M : State → Prop)
    (hP : ∀ s, P s → M (f s))
    (hf : ∀ s o, ∃ overrides, f { s with overrides := o } = { f s with overrides })
    (h : W.Steps M P' R (x ⟨⟩) (y ⟨⟩)) :
    W.Steps P P' R (modify f >>= x) (modify f >>= y) := by
  rintro s _ σ hs ⟨o, rfl⟩ hσ
  rw [run_bind_modify, run_bind_modify]
  exact h (hP s hs) (hf s o) hσ

/-- Only the first run changes its state, and only its overrides. -/
lemma override {f : State → Dict Template} {x : PUnit → RenderM β} {y : RenderM β}
    (M : State → Prop) (hP : ∀ s, P s → M { s with overrides := f s })
    (h : W.Steps M P' R (x ⟨⟩) y) :
    W.Steps P P' R (modify (fun s => { s with overrides := f s }) >>= x) y := by
  rintro s _ σ hs ⟨o, rfl⟩ hσ
  rw [run_bind_modify]
  exact h (hP s hs) ⟨o, rfl⟩ hσ

lemma fail {e : RenderError} : W.Steps P P' Q (Render.fail e) (Render.fail e) :=
  fun _ _ _ _ _ hσ => .error hσ

lemma ite {p : Prop} [Decidable p] {x x' y y' : RenderM α} (h : W.Steps P P' Q x y)
    (h' : W.Steps P P' Q x' y') : W.Steps P P' Q (if p then x else x') (if p then y else y') := by
  split
  · exact h
  · exact h'

/-- A check that fails in both runs or in neither. What it excludes is known to the rest. -/
lemma guard {p : Prop} [Decidable p] {e : RenderError} {f g : Unit → RenderM α}
    (h : ¬p → W.Steps P P' Q (f ()) (g ())) :
    W.Steps P P' Q (if p then Render.fail e >>= f else f ())
      (if p then Render.fail e >>= g else g ()) := by
  split
  · exact bind (M := P) (Q := fun _ => False) fail fun _ => False.elim
  · exact h ‹_›

end Steps

/-! ### Scopes, imports and variables -/

/-- The predicate does not look at scopes. -/
def Unscoped (P : State → Prop) : Prop :=
  ∀ ⦃s⦄ scopes current, P s → P { s with scopes, current }

lemma Holds.unscoped : Unscoped (W.Holds c) := fun _ _ _ h => { h with }

lemma Steps.inScope {x y : RenderM α} (hP : Unscoped P) (hP' : Unscoped P')
    (h : W.Steps P P' Q x y) (l : Link) : W.Steps P P' Q (inScope l x) (inScope l y) := by
  rintro s _ σ hs ⟨o, rfl⟩ hσ
  have hin := h (hP (s.scopes.push ⟨[], l⟩) (some s.scopes.size) hs) ⟨o, rfl⟩ hσ
  rcases hin.cases with ⟨a, t, _, τ, hr, hr', hq, ht, ⟨o', rfl⟩, hτ⟩ | ⟨e, τ, hr, hr', hτ⟩
  · rw [run_inScope_ok hr, run_inScope_ok hr']
    exact .ok hq (hP' _ _ ht) ⟨o', rfl⟩ hτ
  · rw [run_inScope_error hr, run_inScope_error hr']
    exact .error hτ

lemma Mirrors.inScope {x y : RenderM α} (h : W.Mirrors c Q x y) (l : Link) :
    W.Mirrors c Q (inScope l x) (inScope l y) :=
  Steps.inScope Holds.unscoped Holds.unscoped h l

/-- Code that runs with other imports leaves those of the scene as they were. -/
lemma Mirrors.withImports {x y : RenderM α} (h : W.Mirrors c.unpinned Q x y)
    {imports : Dict Module} (himports : ∀ e ∈ imports, e.2.All W.admits) :
    W.Mirrors c Q (withImports imports x) (withImports imports y) := by
  rintro s _ σ hs ⟨o, rfl⟩ hσ
  have hin : W.Holds c.unpinned { s with imports } := { hs with imports := himports, pin := nofun }
  rcases (h hin ⟨o, rfl⟩ hσ).cases with ⟨a, t, _, τ, hr, hr', hq, ht, ⟨o', rfl⟩, hτ⟩ |
    ⟨e, τ, hr, hr', hτ⟩
  · rw [run_withImports_ok hr, run_withImports_ok hr']
    exact .ok hq { ht with imports := hs.imports, pin := hs.pin } ⟨o', rfl⟩ hτ
  · rw [run_withImports_error hr, run_withImports_error hr']
    exact .error hτ

lemma mirrors_setLocal (name : String) (v : Value) :
    W.Mirrors c (fun _ => True) (setLocal name v) (setLocal name v) := by
  refine Steps.update (fun s hs => ?_) ?_
  · cases s.current with
    | none | some id => exact Holds.unscoped _ _ hs
  · rintro s _ ⟨o, rfl⟩
    refine ⟨o, ?_⟩
    cases s.current with
    | none | some id => rfl

lemma mirrors_setLocals (vars : List (String × Value)) :
    W.Mirrors c (fun _ => True) (setLocals vars) (setLocals vars) := by
  induction vars with
  | nil => exact Steps.pure trivial
  | cons v more ih => exact Steps.bind (mirrors_setLocal v.1 v.2) fun _ _ => ih

lemma mirrors_lookup (root : Dict Value) (name : String) :
    W.Mirrors c (fun _ => True) (lookup root name) (lookup root name) := by
  refine Steps.get_bind ?_
  rintro s _ - ⟨o, rfl⟩
  exact Steps.pure trivial

lemma mirrors_here : W.Mirrors c (fun _ => True) here here := by
  refine Steps.get_bind ?_
  rintro s _ - ⟨o, rfl⟩
  exact Steps.pure trivial

/-! ### Values -/

lemma mirrors_typed (pos : Position) (r : Except Fault α) :
    W.Mirrors c (fun _ => True) (typed pos r) (typed pos r) := by
  cases r with
  | ok a => exact Steps.pure trivial
  | error fault => exact Steps.fail

lemma mirrors_applyFilter (env : Env) (name : String) (v : Value) (args : List Value)
    (pos : Position) :
    W.Mirrors c (fun _ => True) (applyFilter env name v args pos)
      (applyFilter env name v args pos) := by
  unfold applyFilter
  cases env.engine.registry.filter? name with
  | none => exact Steps.fail
  | some f =>
    cases h : f.apply v args with
    | ok w =>
      simp only [h]
      exact Steps.pure trivial
    | error fault =>
      simp only [h]
      exact Steps.fail

lemma mirrors_applyTest (env : Env) (name : String) (v : Value) (args : List Value)
    (pos : Position) :
    W.Mirrors c (fun _ => True) (applyTest env name v args pos)
      (applyTest env name v args pos) := by
  unfold applyTest
  cases env.engine.registry.test? name with
  | none => exact Steps.fail
  | some test =>
    cases h : test v args with
    | ok passed =>
      simp only [h]
      exact Steps.pure trivial
    | error fault =>
      simp only [h]
      exact Steps.fail

lemma mirrors_leftover (flow : Flow) :
    W.Mirrors c (fun _ => True) (leftover flow) (leftover flow) := by
  cases flow with
  | normal => exact Steps.pure trivial
  | exitLoop pos | nextItem pos => exact Steps.fail

lemma mirrors_printValue (v : Value) :
    W.Mirrors c (fun _ => True) (printValue v) (printValue v) := by
  refine Steps.get_bind ?_
  rintro s _ - ⟨o, rfl⟩
  exact Steps.pure trivial

lemma mirrors_mapView (target : Value) (method : String) (pos : Position) :
    W.Mirrors c (fun _ => True) (mapView target method pos) (mapView target method pos) := by
  have hview : ∀ entries, W.Mirrors c (fun _ => True) (mapView (.map entries) method pos)
      (mapView (.map entries) method pos) := by
    intro entries
    simp only [mapView]
    split
    · exact Steps.pure trivial
    · exact Steps.pure trivial
    · exact Steps.pure trivial
    · exact Steps.fail
  cases target with
  | map entries => exact hview entries
  | undefined | null => exact hview []
  | _ => exact Steps.fail

end World

end Render

end Stencil
