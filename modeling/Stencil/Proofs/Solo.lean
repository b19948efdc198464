import Stencil.Proofs.CoupledState
import Stencil.Proofs.SoloTemplate

/-! A template that runs alone, and a variable that its code does not read. Two runs from states
that differ only in the values of this variable end alike, with the same result or the same error,
and no run changes the session of the engine. -/
namespace Stencil.Render

/-- A template that stands alone, with what is around its runs. -/
structure Solo where
  env : Env
  template : Template
  /-- The variable that the code does not read. -/
  hidden : String
  ignores : template.Ignores hidden

namespace Solo

variable (c : Solo) {α β : Type}

/-- The call block is one of the template. -/
structure Owns (k : Caller) : Prop where
  body : Instr.ignoresAll c.hidden k.body = true
  template : k.template = c.template
  imports : k.imports = []

/-- States of a run of the template: none of the code that the state makes known is foreign. -/
structure Plain (s : State) : Prop where
  overrides : s.overrides = []
  imports : s.imports = []
  callers : ∀ k ∈ s.callers, c.Owns k

/-- The scopes hold the same variables, but for the hidden one. -/
structure SameScopes (a b : Array Scope) : Prop where
  size : a.size = b.size
  scope : ∀ {j : Nat} {x y : Scope}, a[j]? = some x → b[j]? = some y →
    x.parent = y.parent ∧ ∀ name, name ≠ c.hidden → Dict.get? x.vars name = Dict.get? y.vars name

/-- The second state is the first, but for the values of the hidden variable. -/
def Alike (s s' : State) : Prop := ∃ scopes, s' = { s with scopes } ∧ c.SameScopes s.scopes scopes

/-- Ends of two runs that began with the session `σ`: both with the same result, which satisfies
`Q`, or both with the same error. -/
inductive Ends (Q : α → Prop) (σ : Session) :
    Except Stop (α × State) × Session → Except Stop (α × State) × Session → Prop where
  | ok {a : α} {u u' : State} (result : Q a) (plain : c.Plain u) (alike : c.Alike u u') :
      Ends Q σ (.ok (a, u), σ) (.ok (a, u'), σ)
  | error {e : Stop} : Ends Q σ (.error e, σ) (.error e, σ)

/-- From states that differ only in the hidden variable the two actions end alike. -/
def Agree (Q : α → Prop) (x y : RenderM α) : Prop :=
  ∀ ⦃s s' : State⦄ (σ : Session), c.Plain s → c.Alike s s' →
    c.Ends Q σ ((x.run s).run σ) ((y.run s').run σ)

/-- The action does not depend on the hidden variable. -/
abbrev Blind (Q : α → Prop) (x : RenderM α) : Prop := c.Agree Q x x

variable {c} {Q : α → Prop} {R : β → Prop} {s s' u : State} {σ : Session}

lemma SameScopes.refl {a : Array Scope} : c.SameScopes a a := by
  refine ⟨rfl, fun {j x y} hx hy => ?_⟩
  obtain rfl := Option.some.inj (hx.symm.trans hy)
  exact ⟨rfl, fun _ _ => rfl⟩

lemma Alike.refl : c.Alike s s := ⟨s.scopes, rfl, .refl⟩

lemma Ends.cases {r r' : Except Stop (α × State) × Session} (h : c.Ends Q σ r r') :
    (∃ a u u', r = (.ok (a, u), σ) ∧ r' = (.ok (a, u'), σ) ∧ Q a ∧ c.Plain u ∧ c.Alike u u') ∨
      ∃ e, r = (.error e, σ) ∧ r' = (.error e, σ) := by
  cases h with
  | ok hq hu halike => exact .inl ⟨_, _, _, rfl, rfl, hq, hu, halike⟩
  | error => exact .inr ⟨_, rfl, rfl⟩

namespace Agree

lemma pure {a : α} (h : Q a) : c.Blind Q (Pure.pure a) := fun _ _ _ hs halike => .ok h hs halike

lemma fail {e : RenderError} : c.Blind Q (Render.fail e) := fun _ _ _ _ _ => .error

lemma bind {x y : RenderM α} {f g : α → RenderM β} (hx : c.Agree Q x y)
    (hf : ∀ a, Q a → c.Agree R (f a) (g a)) : c.Agree R (x >>= f) (y >>= g) := by
  intro s s' σ hs halike
  obtain ⟨a, u, u', hr, hr', hq, hu, halike'⟩ | ⟨e, hr, hr'⟩ := (hx σ hs halike).cases
  · rw [run_bind_ok f hr, run_bind_ok g hr']
    exact hf a hq σ hu halike'
  · rw [run_bind_error f hr, run_bind_error g hr']
    exact .error

lemma mono {Q' : α → Prop} {x y : RenderM α} (h : c.Agree Q x y) (hQ : ∀ a, Q a → Q' a) :
    c.Agree Q' x y := by
  intro s s' σ hs halike
  obtain ⟨a, u, u', hr, hr', hq, hu, halike'⟩ | ⟨e, hr, hr'⟩ := (h σ hs halike).cases
  · rw [hr, hr']
    exact .ok (hQ a hq) hu halike'
  · rw [hr, hr']
    exact .error

/-- Both runs go on with what they find in their states beside the scopes. -/
lemma get_bind {f : State → RenderM β} (h : ∀ s, c.Plain s → c.Blind R (f s))
    (hf : ∀ s scopes, f { s with scopes } = f s := by intros; rfl) :
    c.Blind R (MonadState.get >>= f) := by
  rintro s _ σ hs ⟨scopes, rfl, hscopes⟩
  rw [run_bind_get, run_bind_get, hf s scopes]
  exact h s hs σ hs ⟨scopes, rfl, hscopes⟩

lemma update {f g : State → State} (hf : ∀ s, c.Plain s → c.Plain (f s))
    (h : ∀ s s', c.Alike s s' → c.Alike (f s) (g s')) :
    c.Agree (fun _ => True) (modify f : RenderM Unit) (modify g) :=
  fun s s' _ hs halike => .ok trivial (hf s hs) (h s s' halike)

/-- A change that does not look at the scopes. -/
lemma modify_bind {f : State → State} {x : PUnit → RenderM β}
    (hf : ∀ s, c.Plain s → c.Plain (f s)) (h : c.Blind R (x ⟨⟩))
    (hkept : ∀ s scopes, f { s with scopes } = { f s with scopes } ∧ (f s).scopes = s.scopes := by
      intros; exact ⟨rfl, rfl⟩) :
    c.Blind R (modify f >>= x) := by
  refine .bind (update hf ?_) fun _ _ => h
  rintro s _ ⟨scopes, rfl, hsame⟩
  obtain ⟨heq, hscopes⟩ := hkept s scopes
  refine ⟨scopes, heq, ?_⟩
  rw [hscopes]
  exact hsame

lemma ite {p : Prop} [Decidable p] {x y x' y' : RenderM α} (h : c.Agree Q x y)
    (h' : c.Agree Q x' y') : c.Agree Q (if p then x else x') (if p then y else y') := by
  split
  · exact h
  · exact h'

/-- A check that fails in both runs or in neither. -/
lemma guard {p : Prop} [Decidable p] {e : RenderError} {f : Unit → RenderM α}
    (h : c.Blind Q (f ())) : c.Blind Q (if p then Render.fail e >>= f else f ()) :=
  ite (bind (Q := fun _ => False) fail fun _ => False.elim) h

end Agree

/-! ### Scopes and variables -/

lemma Plain.moved (h : c.Plain s) (scopes : Array Scope) (current : Option Nat) :
    c.Plain { s with scopes, current } := { h with }

namespace SameScopes

variable {a b : Array Scope}

lemma push (h : c.SameScopes a b) {x y : Scope} (hparent : x.parent = y.parent)
    (hvars : ∀ name, name ≠ c.hidden → Dict.get? x.vars name = Dict.get? y.vars name) :
    c.SameScopes (a.push x) (b.push y) := by
  refine ⟨by simp [h.size], fun {j x' y'} hx hy => ?_⟩
  rw [Array.getElem?_push] at hx hy
  rw [← h.size] at hy
  by_cases hj : j = a.size
  · rw [if_pos hj] at hx hy
    cases hx
    cases hy
    exact ⟨hparent, hvars⟩
  · rw [if_neg hj] at hx hy
    exact h.scope hx hy

lemma pop (h : c.SameScopes a b) : c.SameScopes a.pop b.pop := by
  refine ⟨by simp [h.size], fun {j x y} hx hy => ?_⟩
  rw [Array.getElem?_pop] at hx hy
  split at hx
  · split at hy
    · exact h.scope hx hy
    · cases hy
  · cases hx

lemma modify (h : c.SameScopes a b) (id : Nat) (name : String) {v w : Value}
    (hvalue : name ≠ c.hidden → v = w) :
    c.SameScopes (a.modify id fun x => { x with vars := Dict.insert name v x.vars })
      (b.modify id fun x => { x with vars := Dict.insert name w x.vars }) := by
  refine ⟨by simp [h.size], fun {j x y} hx hy => ?_⟩
  rw [Array.getElem?_modify] at hx hy
  by_cases hj : id = j
  · rw [if_pos hj] at hx hy
    obtain ⟨x', hx', rfl⟩ := Option.map_eq_some_iff.mp hx
    obtain ⟨y', hy', rfl⟩ := Option.map_eq_some_iff.mp hy
    obtain ⟨hparent, hvars⟩ := h.scope hx' hy'
    refine ⟨hparent, fun other hother => ?_⟩
    rw [Dict.get?_insert, Dict.get?_insert, hvars other hother]
    by_cases hname : other = name
    · rw [if_pos hname, if_pos hname, hvalue (hname ▸ hother)]
    · rw [if_neg hname, if_neg hname]
  · rw [if_neg hj] at hx hy
    exact h.scope hx hy

/-- Along the same links the same value is found. -/
lemma lookupFrom_eq (h : c.SameScopes a b) (root : Dict Value) {name : String}
    (hname : name ≠ c.hidden) (l : Link) :
    lookupFrom a root name l = lookupFrom b root name l := by
  -- Links lead to scopes below, so that the height falls.
  induction hh : l.height using Nat.strongRecOn generalizing l with
  | ind height ih =>
    cases l with
    | root | isolated => rw [lookupFrom, lookupFrom]
    | scope id =>
      rw [lookupFrom, lookupFrom]
      cases hx : a[id]? with
      | none =>
        have hy : b[id]? = none := by
          rw [Array.getElem?_eq_none_iff] at hx ⊢
          rw [← h.size]
          exact hx
        rw [hy]
      | some x =>
        obtain ⟨hlt, -⟩ := Array.getElem?_eq_some_iff.mp hx
        rw [h.size] at hlt
        have hy : b[id]? = some b[id] := Array.getElem?_eq_getElem hlt
        obtain ⟨hparent, hvars⟩ := h.scope hx hy
        simp only [hy, hvars name hname, ← hparent]
        cases Dict.get? b[id].vars name with
        | some v => rfl
        | none =>
          by_cases hle : x.parent.height ≤ id
          · simp only [if_pos hle]
            apply ih _ _ _ rfl
            simp only [Link.height] at hh
            omega
          · simp only [if_neg hle]

end SameScopes

lemma Agree.inScope {x y : RenderM α} (h : c.Agree Q x y) (l : Link) :
    c.Agree Q (inScope l x) (inScope l y) := by
  rintro s _ σ hs ⟨scopes, rfl, hsame⟩
  have halike : c.Alike { s with scopes := s.scopes.push ⟨[], l⟩, current := some s.scopes.size }
      { s with scopes := scopes.push ⟨[], l⟩, current := some scopes.size } := by
    rw [← hsame.size]
    exact ⟨_, rfl, hsame.push rfl fun _ _ => rfl⟩
  obtain ⟨a, u, _, hr, hr', hq, hu, t, rfl, hsame'⟩ | ⟨e, hr, hr'⟩ :=
    (h σ (hs.moved _ _) halike).cases
  · rw [run_inScope_ok hr, run_inScope_ok hr']
    exact .ok hq (hu.moved _ _) ⟨_, rfl, hsame'.pop⟩
  · rw [run_inScope_error hr, run_inScope_error hr']
    exact .error

/-- A variable is stored alike in both runs, and if it is not the hidden one, with the same
value. -/
lemma agree_setLocal (name : String) {v w : Value} (hvalue : name ≠ c.hidden → v = w) :
    c.Agree (fun _ => True) (setLocal name v) (setLocal name w) := by
  apply Agree.update
  · intro s hs
    cases s.current with
    | some id | none => exact { hs with }
  · rintro s _ ⟨scopes, rfl, hsame⟩
    cases s.current with
    | some id => exact ⟨_, rfl, hsame.modify id name hvalue⟩
    | none =>
      simp only [← hsame.size]
      refine ⟨_, rfl, hsame.push rfl fun other hother => ?_⟩
      rw [Dict.get?_cons, Dict.get?_cons]
      by_cases hname : other = name
      · rw [if_pos hname, if_pos hname, hvalue (hname ▸ hother)]
      · rw [if_neg hname, if_neg hname]

lemma blind_setLocals (vars : List (String × Value)) :
    c.Blind (fun _ => True) (setLocals vars) := by
  induction vars with
  | nil => exact .pure trivial
  | cons v more ih => exact .bind (agree_setLocal v.1 fun _ => rfl) fun _ _ => ih

lemma blind_lookup (root : Dict Value) {name : String} (hname : name ≠ c.hidden) :
    c.Blind (fun _ => True) (lookup root name) := by
  rintro s _ σ hs ⟨scopes, rfl, hsame⟩
  have hvalue : lookupFrom s.scopes root name s.here = lookupFrom scopes root name s.here :=
    hsame.lookupFrom_eq root hname s.here
  change c.Ends _ σ (.ok (lookupFrom s.scopes root name s.here, s), σ)
    (.ok (lookupFrom scopes root name s.here, { s with scopes }), σ)
  rw [hvalue]
  exact .ok trivial hs ⟨scopes, rfl, hsame⟩

lemma blind_here : c.Blind (fun _ => True) here :=
  .get_bind fun _ _ => .pure trivial

/-- No template has been imported. -/
lemma Agree.withImports {x : RenderM α} (h : c.Blind Q x) : c.Blind Q (withImports [] x) := by
  refine .get_bind fun saved hsaved => .modify_bind (fun s hs => { hs with imports := rfl }) ?_
  refine .bind h fun a ha => .modify_bind (fun s hs => ?_) (.pure ha)
  exact { hs with imports := hsaved.imports }

/-! ### Values -/

lemma blind_typed (pos : Position) (r : Except Fault α) :
    c.Blind (fun _ => True) (typed pos r) := by
  cases r with
  | ok a => exact .pure trivial
  | error fault => exact .fail

lemma blind_leftover (flow : Flow) : c.Blind (fun _ => True) (leftover flow) := by
  cases flow with
  | normal => exact .pure trivial
  | exitLoop pos | nextItem pos => exact .fail

lemma blind_printValue (v : Value) : c.Blind (fun _ => True) (printValue v) :=
  .get_bind fun _ _ => .pure trivial

lemma blind_applyFilter (env : Env) (name : String) (v : Value) (args : List Value)
    (pos : Position) : c.Blind (fun _ => True) (applyFilter env name v args pos) := by
  unfold applyFilter
  cases env.engine.registry.filter? name with
  | none => exact .fail
  | some f =>
    cases h : f.apply v args with
    | ok w => simpa only [h] using .pure trivial
    | error fault => simpa only [h] using .fail

lemma blind_applyTest (env : Env) (name : String) (v : Value) (args : List Value)
    (pos : Position) : c.Blind (fun _ => True) (applyTest env name v args pos) := by
  unfold applyTest
  cases env.engine.registry.test? name with
  | none => exact .fail
  | some test =>
    cases h : test v args with
    | ok passed => simpa only [h] using .pure trivial
    | error fault => simpa only [h] using .fail

lemma blind_mapView (target : Value) (method : String) (pos : Position) :
    c.Blind (fun _ => True) (mapView target method pos) := by
  have hview : ∀ entries, c.Blind (fun _ => True) (mapView (.map entries) method pos) := by
    intro entries
    simp only [mapView]
    split
    · exact .pure trivial
    · exact .pure trivial
    · exact .pure trivial
    · exact .fail
  cases target with
  | map entries => exact hview entries
  | undefined | null => exact hview []
  | _ => exact .fail

end Solo

end Stencil.Render
