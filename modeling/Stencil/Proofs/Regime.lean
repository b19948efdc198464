import Stencil.Proofs.Confined
import Stencil.Proofs.ControlPoint
import Stencil.Proofs.Hereditary
import Stencil.Proofs.Kept
import Stencil.Proofs.Mirror

/-! What all code of a run keeps to. The values that it works with have a property that they hand on
to what is made of them, and the loop controls of all code that it can come to stand in loops: in
the templates that are kept or supplied, in those that override blocks or are imported, and in the
call blocks that wait. -/
namespace Stencil.Render

open Instr (confinedAll)

variable {α β : Type}

/-- What holds all through the runs in an environment. -/
structure Regime (env : Env) where
  /-- What holds of all values. -/
  value : Value → Prop
  /-- Whether all loop controls have to stand in loops. -/
  looped : Prop
  hereditary : Value.Hereditary value
  safe : ∀ text, value (.safe text)
  root : value (.map env.root)
  filter : ∀ {name f v args w}, env.engine.registry.filter? name = some f → value v →
    (∀ a ∈ args, value a) → f.apply v args = .ok w → value w
  offers : env.engine.Offers fun t => looped → t.Looped

namespace Regime

variable {env : Env} (c : Regime env)

/-- The check succeeds, if controls have to stand in loops. -/
def Allows (check : Bool) : Prop := c.looped → check = true

/-- The template may run. -/
def Fits (t : Template) : Prop := c.looped → t.Looped

/-- The body of the call block can be placed anywhere. -/
structure Waits (k : Caller) : Prop where
  body : c.Allows (confinedAll false k.body)
  template : c.Fits k.template
  imports : ∀ e ∈ k.imports, e.2.All c.Fits

/-- The variables of all scopes have the property of values, and the code that the state and the
session make known may run. -/
structure Holds (s : State) (σ : Session) : Prop where
  values : ∀ ⦃i : Nat⦄ ⦃x : Scope⦄, s.scopes[i]? = some x → c.value (.map x.vars)
  overrides : ∀ o ∈ s.overrides, c.Fits o.2
  imports : ∀ e ∈ s.imports, e.2.All c.Fits
  callers : ∀ k ∈ s.callers, c.Waits k
  session : σ.All c.Fits

/-- A run ended with a result that satisfies `Q`, or with an error. Where controls have to stand in
loops, the error is not about a control outside of loops. -/
inductive Ends (Q : α → Prop) : Except Stop (α × State) × Session → Prop where
  | ok {a : α} {s : State} {σ : Session} (result : Q a) (holds : c.Holds s σ) :
      Ends Q (.ok (a, s), σ)
  | error {e : Stop} {σ : Session}
      (other : c.looped → ∀ keyword pos, e ≠ .error (.loopControl keyword pos)) :
      Ends Q (.error e, σ)

/-- The action keeps to the regime. -/
def Upholds (Q : α → Prop) (x : RenderM α) : Prop :=
  ∀ ⦃s σ⦄, c.Holds s σ → c.Ends Q ((x.run s).run σ)

variable {c} {Q : α → Prop} {R : β → Prop} {s u : State} {σ τ : Session} {t : Template}

lemma allows_and {a b : Bool} : c.Allows (a && b) ↔ c.Allows a ∧ c.Allows b := by
  simp only [Allows, Bool.and_eq_true, imp_and]

lemma Fits.body (h : c.Fits t) : c.Allows (confinedAll false t.body) := fun hc => (h hc).body

lemma Fits.macroDef (h : c.Fits t) {name : String} {m : MacroDef}
    (hm : Dict.get? t.macros name = some m) : c.Allows (confinedAll false m.body) :=
  fun hc => (h hc).macros _ (Dict.mem_of_get? hm)

lemma Fits.block (h : c.Fits t) {name : String} {body : List Instr}
    (hb : Dict.get? t.blocks name = some body) : c.Allows (confinedAll false body) :=
  fun hc => (h hc).blocks _ (Dict.mem_of_get? hb)

/-- Whoever owns a block may run. -/
lemma Holds.owner (hs : c.Holds s σ) (ht : c.Fits t) (name : String) :
    c.Fits ((Dict.get? s.overrides name).getD t) := by
  cases hget : Dict.get? s.overrides name with
  | none => exact ht
  | some o => exact hs.overrides _ (Dict.mem_of_get? hget)

lemma Holds.opened (hs : c.Holds s σ) (l : Link) :
    c.Holds { s with scopes := s.scopes.push ⟨[], l⟩, current := some s.scopes.size } σ := by
  refine { hs with values := fun i x hx => ?_ }
  rw [Array.getElem?_push] at hx
  split at hx
  · cases hx
    exact c.hereditary.empty
  · exact hs.values hx

lemma Holds.closed (hs : c.Holds s σ) (previous : Option Nat) :
    c.Holds { s with scopes := s.scopes.pop, current := previous } σ := by
  refine { hs with values := fun i x hx => ?_ }
  rw [Array.getElem?_pop] at hx
  split at hx
  · exact hs.values hx
  · cases hx

lemma Ends.cases {r : Except Stop (α × State) × Session} (h : c.Ends Q r) :
    (∃ a s σ, r = (.ok (a, s), σ) ∧ Q a ∧ c.Holds s σ) ∨
    ∃ e σ, r = (.error e, σ) ∧
      (c.looped → ∀ keyword pos, e ≠ .error (.loopControl keyword pos)) := by
  cases h with
  | ok hq hs => exact .inl ⟨_, _, _, rfl, hq, hs⟩
  | error h => exact .inr ⟨_, _, rfl, h⟩

/-! ### Composed actions -/

namespace Upholds

lemma of_yields {x : RenderM α} {a : α} (h : c.Upholds Q x) (hs : c.Holds s σ)
    (hr : Yields x s σ a u τ) : Q a ∧ c.Holds u τ := by
  obtain ⟨b, v, υ, hx, hq, hv⟩ | ⟨e, υ, hx, -⟩ := (h hs).cases
  · cases hr.symm.trans hx
    exact ⟨hq, hv⟩
  · cases hr.symm.trans hx

lemma pure {a : α} (h : Q a) : c.Upholds Q (Pure.pure a) := fun _ _ hs => .ok h hs

lemma bind {x : RenderM α} {f : α → RenderM β} (hx : c.Upholds Q x)
    (hf : ∀ a, Q a → c.Upholds R (f a)) : c.Upholds R (x >>= f) := by
  intro s σ hs
  obtain ⟨a, t, τ, hr, hq, ht⟩ | ⟨e, τ, hr, he⟩ := (hx hs).cases
  · rw [run_bind_ok f hr]
    exact hf a hq ht
  · rw [run_bind_error f hr]
    exact .error he

lemma mono {Q' : α → Prop} {x : RenderM α} (h : c.Upholds Q x) (hQ : ∀ a, Q a → Q' a) :
    c.Upholds Q' x := by
  intro s σ hs
  obtain ⟨a, t, τ, hr, hq, ht⟩ | ⟨e, τ, hr, he⟩ := (h hs).cases
  · rw [hr]
    exact .ok (hQ a hq) ht
  · rw [hr]
    exact .error he

lemma get_bind {f : State → RenderM β} (h : ∀ s σ, c.Holds s σ → c.Upholds R (f s)) :
    c.Upholds R (MonadState.get >>= f) := fun s σ hs => h s σ hs hs

lemma update {f : State → State} (h : ∀ s σ, c.Holds s σ → c.Holds (f s) σ) :
    c.Upholds (fun _ => True) (modify f : RenderM Unit) := fun s σ hs => .ok trivial (h s σ hs)

lemma modify_bind {f : State → State} {x : PUnit → RenderM β}
    (h : ∀ s σ, c.Holds s σ → c.Holds (f s) σ) (hx : c.Upholds R (x ⟨⟩)) :
    c.Upholds R (modify f >>= x) := bind (update h) fun _ _ => hx

lemma fail {e : RenderError} (h : ∀ keyword pos, e ≠ .loopControl keyword pos := by simp) :
    c.Upholds Q (Render.fail e : RenderM α) :=
  fun _ _ _ => .error fun _ keyword pos he => h keyword pos (Stop.error.inj he)

lemma ite {p : Prop} [Decidable p] {x y : RenderM α} (hx : c.Upholds Q x) (hy : c.Upholds Q y) :
    c.Upholds Q (if p then x else y) := by
  split
  · exact hx
  · exact hy

lemma guard {p : Prop} [Decidable p] {e : RenderError} {f : Unit → RenderM α}
    (h : c.Upholds Q (f ())) (he : ∀ keyword pos, e ≠ .loopControl keyword pos := by simp) :
    c.Upholds Q (if p then Render.fail e >>= f else f ()) :=
  ite (bind (Q := fun _ => False) (fail he) fun _ => False.elim) h

lemma inScope {x : RenderM α} (h : c.Upholds Q x) (l : Link) : c.Upholds Q (inScope l x) := by
  refine bind (Q := fun _ => True) (fun s σ hs => .ok trivial (hs.opened l)) fun _ _ => ?_
  exact bind h fun a ha => modify_bind (fun s σ hs => hs.closed _) (pure ha)

lemma withImports {x : RenderM α} {imports : Dict Module} (h : c.Upholds Q x)
    (himports : ∀ e ∈ imports, e.2.All c.Fits) : c.Upholds Q (withImports imports x) := by
  refine get_bind fun saved _ hsaved =>
    modify_bind (fun s σ hs => { hs with imports := himports }) ?_
  refine bind h fun a ha => modify_bind (fun s σ hs => ?_) (pure ha)
  exact { hs with imports := hsaved.imports }

end Upholds

/-! ### Actions that start no code -/

lemma upholds_typed {r : Except Fault α} (h : ∀ a, r = .ok a → Q a) (pos : Position) :
    c.Upholds Q (typed pos r) := by
  cases r with
  | ok a => exact .pure (h a rfl)
  | error fault => exact .fail

lemma Holds.lookupFrom (hs : c.Holds s σ) (name : String) (l : Link) :
    c.value (lookupFrom s.scopes env.root name l) := by
  fun_induction Render.lookupFrom with
  | case1 => exact c.hereditary.getD_get? name c.root
  | case2 | case3 | case6 => exact c.hereditary.undefined
  | case4 id x hx v hv => exact c.hereditary.of_get? (hs.values hx) hv
  | case5 id x hx hv hdown ih => exact ih

lemma upholds_lookup (name : String) : c.Upholds c.value (lookup env.root name) :=
  .get_bind fun _ _ hs => .pure (hs.lookupFrom name _)

lemma upholds_here : c.Upholds (fun _ => True) here := .get_bind fun _ _ _ => .pure trivial

lemma upholds_setLocal (name : String) {v : Value} (hv : c.value v) :
    c.Upholds (fun _ => True) (setLocal name v) := by
  refine .update fun s σ hs => ?_
  split
  · refine { hs with values := fun i x hx => ?_ }
    rw [Array.getElem?_modify] at hx
    split at hx
    · obtain ⟨y, hy, rfl⟩ := Option.map_eq_some_iff.mp hx
      exact c.hereditary.insert (hs.values hy) hv
    · exact hs.values hx
  -- At the top level the first variable opens a scope.
  · refine { hs with values := fun i x hx => ?_ }
    rw [Array.getElem?_push] at hx
    split at hx
    · cases hx
      exact c.hereditary.insert c.hereditary.empty hv
    · exact hs.values hx

lemma upholds_setLocals {vars : List (String × Value)} (h : ∀ e ∈ vars, c.value e.2) :
    c.Upholds (fun _ => True) (setLocals vars) := by
  induction vars with
  | nil => exact .pure trivial
  | cons e more ih =>
    obtain ⟨he, hmore⟩ := List.forall_mem_cons.mp h
    exact .bind (upholds_setLocal e.1 he) fun _ _ => ih hmore

/-- Only a normal end is no stray control. -/
lemma upholds_leftover {flow : Flow} (h : c.looped → flow = .normal) :
    c.Upholds (fun _ => True) (leftover flow) := by
  cases flow with
  | normal => exact .pure trivial
  | exitLoop pos | nextItem pos =>
    exact fun _ _ _ => .error fun hc => Flow.noConfusion (h hc)

lemma upholds_printValue (v : Value) : c.Upholds (fun _ => True) (printValue v) :=
  .get_bind fun _ _ _ => .pure trivial

lemma upholds_applyFilter (name : String) {v : Value} (hv : c.value v) {args : List Value}
    (hargs : ∀ a ∈ args, c.value a) (pos : Position) :
    c.Upholds c.value (applyFilter env name v args pos) := by
  unfold applyFilter
  cases hf : env.engine.registry.filter? name with
  | none => exact .fail
  | some f =>
    cases hw : f.apply v args with
    | ok w =>
      simp only [hw]
      exact .pure (c.filter hf hv hargs hw)
    | error fault =>
      simp only [hw]
      exact .fail

lemma upholds_applyTest (name : String) (v : Value) (args : List Value) (pos : Position) :
    c.Upholds (fun _ => True) (applyTest env name v args pos) := by
  unfold applyTest
  cases env.engine.registry.test? name with
  | none => exact .fail
  | some test =>
    cases h : test v args with
    | ok passed =>
      simp only [h]
      exact .pure trivial
    | error fault =>
      simp only [h]
      exact .fail

lemma upholds_mapView {target : Value} (h : c.value target) (method : String) (pos : Position) :
    c.Upholds c.value (mapView target method pos) := by
  have hview : ∀ entries, c.value (.map entries) →
      c.Upholds c.value (mapView (.map entries) method pos) := by
    intro entries hentries
    simp only [mapView]
    split
    · exact .pure (c.hereditary.entryPairs hentries)
    · exact .pure (c.hereditary.strs _)
    · refine .pure (c.hereditary.list.mpr fun v hv => ?_)
      obtain ⟨e, he, rfl⟩ := List.mem_map.mp hv
      exact c.hereditary.entries hentries e he
    · exact .fail
  cases target with
  | map entries => exact hview entries h
  | undefined | null => exact hview [] c.hereditary.empty
  | _ => exact .fail

/-- An alias names a module that the state knows. -/
lemma upholds_aliased (base : Expr) :
    c.Upholds (fun named => ∀ x ∈ named, x.2.All c.Fits) (aliased env base) := by
  have hnone : c.Upholds (fun named => ∀ x ∈ named, x.2.All c.Fits)
      (Pure.pure none : RenderM (Option (String × Module))) := .pure nofun
  cases base with
  | var name =>
    refine .bind (upholds_lookup name) fun v _ => .ite (.get_bind fun s σ hs => .pure ?_) hnone
    cases hget : Dict.get? s.imports name with
    | none => nofun
    | some module =>
      rintro _ ⟨⟩
      exact hs.imports _ (Dict.mem_of_get? hget)
  | _ => exact hnone

end Regime

end Stencil.Render
