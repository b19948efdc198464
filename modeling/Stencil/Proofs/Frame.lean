import Stencil.Proofs.ControlPoint
import Stencil.Proofs.CoupledState

/-! What a run leaves behind. Code that opens its own scope leaves the state as it found it, but
for the imports; code that runs in the scope of other code may also store variables there, and a
whole template may also change the overrides. -/
namespace Stencil.Render

variable {α β : Type} {P M Q : State → Prop} {quiet : Prop} {s t u s₀ : State} {σ τ : Session}

/-! ### Actions that end well -/

lemma Yields.of_bind {x : RenderM α} {f : α → RenderM β} {b : β}
    (h : Yields (x >>= f) s σ b u τ) :
    ∃ a t υ, Yields x s σ a t υ ∧ Yields (f a) t υ b u τ := by
  unfold Yields at h
  rcases hx : (x.run s).run σ with ⟨e | ⟨a, t⟩, υ⟩
  · rw [run_bind_error f hx] at h
    cases h
  · rw [run_bind_ok f hx] at h
    exact ⟨a, t, υ, hx, h⟩

/-- An action in a new scope runs in the state with that scope, which is closed behind it. -/
lemma Yields.of_inScope {x : RenderM α} {l : Link} {a : α} (h : Yields (inScope l x) s σ a u τ) :
    ∃ t, Yields x { s with
        scopes := s.scopes.push ⟨[], l⟩, current := some s.scopes.size } σ a t τ ∧
      u = { t with scopes := t.scopes.pop, current := s.current } := by
  unfold Yields at h
  rcases hx : (x.run { s with
    scopes := s.scopes.push ⟨[], l⟩, current := some s.scopes.size }).run σ with ⟨e | ⟨b, t⟩, υ⟩
  · rw [run_inScope_error hx] at h
    cases h
  · rw [run_inScope_ok hx] at h
    cases h
    exact ⟨t, hx, rfl⟩

/-- An action with other imports gives back those that were there. -/
lemma Yields.of_withImports {x : RenderM α} {imports : Dict Module} {a : α}
    (h : Yields (withImports imports x) s σ a u τ) :
    ∃ t, Yields x { s with imports } σ a t τ ∧ u = { t with imports := s.imports } := by
  unfold Yields at h
  rcases hx : (x.run { s with imports }).run σ with ⟨e | ⟨b, t⟩, υ⟩
  · rw [run_withImports_error hx] at h
    cases h
  · rw [run_withImports_ok hx] at h
    cases h
    exact ⟨t, hx, rfl⟩

/-- From states that satisfy `P` the action ends well only in states that satisfy `Q`. -/
def Leads (P : State → Prop) (x : RenderM α) (Q : State → Prop) : Prop :=
  ∀ ⦃s σ a u τ⦄, P s → Yields x s σ a u τ → Q u

namespace Leads

lemma pure {a : α} : Leads P (Pure.pure a : RenderM α) P := by
  rintro s σ _ _ _ hs ⟨⟩
  exact hs

lemma bind {x : RenderM α} {f : α → RenderM β} (hx : Leads P x M) (hf : ∀ a, Leads M (f a) Q) :
    Leads P (x >>= f) Q := by
  intro s σ b u τ hs h
  obtain ⟨a, t, υ, hxa, hfa⟩ := h.of_bind
  exact hf a (hx hs hxa) hfa

/-- What comes next starts in the state that it is told. -/
lemma get_bind_self {f : State → RenderM β} (h : ∀ s, P s → Leads (Eq s) (f s) Q) :
    Leads P (MonadState.get >>= f) Q :=
  fun s _ _ _ _ hs hr => h s hs rfl hr

lemma get_bind {f : State → RenderM β} (h : ∀ s, P s → Leads P (f s) Q) :
    Leads P (MonadState.get >>= f) Q :=
  fun s _ _ _ _ hs hr => h s hs hs hr

lemma update {f : State → State} (h : ∀ s, P s → Q (f s)) :
    Leads P (modify f : RenderM Unit) Q := by
  rintro s σ _ _ _ hs ⟨⟩
  exact h s hs

lemma modify_bind {f : State → State} {x : PUnit → RenderM β} (M : State → Prop)
    (hM : ∀ s, P s → M (f s)) (h : Leads M (x ⟨⟩) Q) : Leads P (modify f >>= x) Q :=
  bind (update hM) fun _ => h

lemma stop {e : Stop} : Leads P (throw e : RenderM α) Q := by
  rintro s σ a u τ - ⟨⟩

lemma fail {e : RenderError} : Leads P (Render.fail e : RenderM α) Q := stop

lemma ite {p : Prop} [Decidable p] {x y : RenderM α} (hx : Leads P x Q) (hy : Leads P y Q) :
    Leads P (if p then x else y) Q := by
  split
  · exact hx
  · exact hy

lemma guard {p : Prop} [Decidable p] {e : RenderError} {f : Unit → RenderM α}
    (h : Leads P (f ()) Q) : Leads P (if p then Render.fail e >>= f else f ()) Q :=
  ite (bind (M := fun _ => False) fail fun _ _ _ _ _ _ => False.elim) h

end Leads

/-! ### Three ways to leave a state -/

/-- The scopes are there as before, and all but the running one hold the same variables. Where no
scope runs, one may have been opened. -/
def ScopesKept (s u : State) : Prop :=
  (∀ id, s.current = some id → u.current = some id ∧ u.scopes.size = s.scopes.size ∧
    (∀ j, j ≠ id → u.scopes[j]? = s.scopes[j]?) ∧
    ∀ j : Nat, (u.scopes[j]?).map Scope.parent = (s.scopes[j]?).map Scope.parent) ∧
  (s.current = none → u.current = none ∧ u.scopes = s.scopes ∨
    ∃ vars, u.current = some s.scopes.size ∧ u.scopes = s.scopes.push ⟨vars, .root⟩)

/-- Everything is as before but for the imports, and these too after `quiet` code. -/
def Restored (quiet : Prop) (s u : State) : Prop :=
  ∃ imports, u = { s with imports } ∧ (quiet → imports = s.imports)

/-- In the running scope variables have been stored, beside what `Restored` says. -/
def Written (quiet : Prop) (s u : State) : Prop :=
  (∃ scopes current imports, u = { s with scopes, current, imports } ∧
    (quiet → imports = s.imports)) ∧ ScopesKept s u

/-- A whole template has run in the scope of the code that started it. -/
def Rendered (s u : State) : Prop :=
  (∃ scopes current imports overrides, u = { s with scopes, current, imports, overrides }) ∧
    ScopesKept s u

namespace ScopesKept

lemma refl : ScopesKept s s :=
  ⟨fun _ hid => ⟨hid, rfl, fun _ _ => rfl, fun _ => rfl⟩, fun hnone => .inl ⟨hnone, rfl⟩⟩

/-- The scope that was opened may hold other variables by now. -/
lemma eq_push {vars : Dict Value} (h : ScopesKept t u) (hcurrent : t.current = some s.scopes.size)
    (hscopes : t.scopes = s.scopes.push ⟨vars, .root⟩) :
    ∃ vars, u.current = some s.scopes.size ∧ u.scopes = s.scopes.push ⟨vars, .root⟩ := by
  obtain ⟨hcurrent', hsize, hget, hparents⟩ := h.1 _ hcurrent
  have hparent := hparents s.scopes.size
  rw [hscopes, Array.getElem?_push_size] at hparent
  obtain ⟨⟨vars', _⟩, hc, rfl⟩ := Option.map_eq_some_iff.mp hparent
  refine ⟨vars', hcurrent', Array.ext_getElem? fun j => ?_⟩
  by_cases hj : j = s.scopes.size
  · rw [hj, hc, Array.getElem?_push_size]
  · rw [hget j hj, hscopes, Array.getElem?_push, Array.getElem?_push, if_neg hj, if_neg hj]

lemma trans (h : ScopesKept s t) (h' : ScopesKept t u) : ScopesKept s u := by
  refine ⟨fun id hid => ?_, fun hnone => ?_⟩
  · obtain ⟨hcurrent, hsize, hget, hparents⟩ := h.1 id hid
    obtain ⟨hcurrent', hsize', hget', hparents'⟩ := h'.1 id hcurrent
    exact ⟨hcurrent', hsize'.trans hsize, fun j hj => (hget' j hj).trans (hget j hj),
      fun j => (hparents' j).trans (hparents j)⟩
  · obtain ⟨hcurrent, hscopes⟩ | ⟨vars, hcurrent, hscopes⟩ := h.2 hnone
    · rw [← hscopes]
      exact h'.2 hcurrent
    · exact .inr (h'.eq_push hcurrent hscopes)

/-- Closing a scope that was opened on top of a state gives back all scopes of that state. -/
lemma pop {l : Link}
    (h : ScopesKept { s with scopes := s.scopes.push ⟨[], l⟩, current := some s.scopes.size } u) :
    u.scopes.pop = s.scopes := by
  obtain ⟨-, hsize, hget, -⟩ := h.1 _ rfl
  refine Array.ext_getElem? fun j => ?_
  rw [Array.getElem?_pop]
  by_cases hj : j < s.scopes.size
  · rw [if_pos (by simp at hsize; omega), hget j (by omega), Array.getElem?_push_lt hj]
    simp
  · rw [if_neg (by simp at hsize; omega), Array.getElem?_eq_none (by omega)]

end ScopesKept

namespace Restored

lemma refl : Restored quiet s s := ⟨_, rfl, fun _ => rfl⟩

lemma trans (h : Restored quiet s t) (h' : Restored quiet t u) : Restored quiet s u := by
  obtain ⟨_, rfl, hi⟩ := h
  obtain ⟨_, rfl, hi'⟩ := h'
  exact ⟨_, rfl, fun hq => (hi' hq).trans (hi hq)⟩

lemma written (h : Restored quiet s u) : Written quiet s u := by
  obtain ⟨_, rfl, hi⟩ := h
  exact ⟨⟨_, _, _, rfl, hi⟩, .refl⟩

end Restored

namespace Written

lemma trans (h : Written quiet s t) (h' : Written quiet t u) : Written quiet s u := by
  obtain ⟨⟨_, _, _, rfl, hi⟩, hs⟩ := h
  obtain ⟨⟨_, _, _, rfl, hi'⟩, hs'⟩ := h'
  exact ⟨⟨_, _, _, rfl, fun hq => (hi' hq).trans (hi hq)⟩, hs.trans hs'⟩

lemma overrides_eq (h : Written quiet s u) : u.overrides = s.overrides := by
  obtain ⟨⟨_, _, _, rfl, -⟩, -⟩ := h
  rfl

lemma rendered (h : Written quiet s u) : Rendered s u := by
  obtain ⟨⟨_, _, _, rfl, -⟩, hs⟩ := h
  exact ⟨⟨_, _, _, _, rfl⟩, hs⟩

end Written

lemma Rendered.refl : Rendered s s :=
  ⟨⟨_, _, _, _, rfl⟩, .refl⟩

lemma Rendered.trans (h : Rendered s t) (h' : Rendered t u) : Rendered s u := by
  obtain ⟨⟨_, _, _, _, rfl⟩, hs⟩ := h
  obtain ⟨⟨_, _, _, _, rfl⟩, hs'⟩ := h'
  exact ⟨⟨_, _, _, _, rfl⟩, hs.trans hs'⟩

namespace Leads

variable {x : RenderM α}

lemma written
    (h : ∀ s, s.overrides = s₀.overrides → Leads (Restored quiet s) x (Restored quiet s)) :
    Leads (Written quiet s₀) x (Written quiet s₀) :=
  fun _ _ _ _ _ hs hr => hs.trans (h _ hs.overrides_eq Restored.refl hr).written

lemma rendered (h : ∀ s, Leads (Written False s) x (Written False s)) :
    Leads (Rendered s₀) x (Rendered s₀) :=
  fun _ _ _ _ _ hs hr => hs.trans (h _ Restored.refl.written hr).rendered

/-- What is stored in a scope is gone when the scope is closed. -/
lemma inScope (h : ∀ s, s.overrides = s₀.overrides → Leads (Written quiet s) x (Written quiet s))
    (l : Link) : Leads (Restored quiet s₀) (inScope l x) (Restored quiet s₀) := by
  rintro s σ a u τ ⟨imports, rfl, hi⟩ hr
  obtain ⟨t, hx, rfl⟩ := hr.of_inScope
  have hwritten := h _ (by rfl) Restored.refl.written hx
  have hpop := hwritten.2.pop
  obtain ⟨⟨_, _, imports', rfl, hi'⟩, -⟩ := hwritten
  refine ⟨imports', ?_, fun hq => (hi' hq).trans (hi hq)⟩
  simp only [hpop]

/-- A template that is rendered in a scope of its own may still leave imports and overrides. -/
lemma inScope_render (h : ∀ s, Leads (Rendered s) x (Rendered s)) (l : Link) :
    Leads (Eq s₀) (Render.inScope l x)
      (fun u => ∃ imports overrides, u = { s₀ with imports, overrides }) := by
  rintro s σ a u τ rfl hr
  obtain ⟨t, hx, rfl⟩ := hr.of_inScope
  have hrendered := h _ Rendered.refl hx
  have hpop := hrendered.2.pop
  obtain ⟨⟨_, _, imports, overrides, rfl⟩, -⟩ := hrendered
  refine ⟨imports, overrides, ?_⟩
  simp only [hpop]

/-- Whatever runs with other imports, those that were there are there again. -/
lemma withImports
    (h : ∀ s, s.overrides = s₀.overrides → Leads (Restored False s) x (Restored False s))
    (imports : Dict Module) :
    Leads (Restored quiet s₀) (withImports imports x) (Restored quiet s₀) := by
  rintro s σ a u τ ⟨imports, rfl, hi⟩ hr
  obtain ⟨t, hx, rfl⟩ := hr.of_withImports
  obtain ⟨_, rfl, -⟩ := h _ (by rfl) Restored.refl hx
  exact ⟨imports, rfl, hi⟩

lemma withImports_written
    (h : ∀ s, s.overrides = s₀.overrides → Leads (Written False s) x (Written False s))
    (imports : Dict Module) :
    Leads (Written quiet s₀) (Render.withImports imports x) (Written quiet s₀) := by
  intro s σ a u τ hs hr
  obtain ⟨t, hx, rfl⟩ := hr.of_withImports
  obtain ⟨⟨_, _, _, rfl, -⟩, hkept⟩ := h _ (by exact hs.overrides_eq) Restored.refl.written hx
  exact hs.trans ⟨⟨_, _, _, rfl, fun _ => rfl⟩, hkept⟩

end Leads

/-! ### Actions that leave the state alone -/

lemma leads_typed (pos : Position) (r : Except Fault α) : Leads P (typed pos r) P := by
  cases r with
  | ok a => exact Leads.pure
  | error fault => exact Leads.fail

lemma leads_applyFilter (env : Env) (name : String) (v : Value) (args : List Value)
    (pos : Position) : Leads P (applyFilter env name v args pos) P := by
  unfold applyFilter
  cases env.engine.registry.filter? name with
  | none => exact Leads.fail
  | some f =>
    cases h : f.apply v args with
    | ok w =>
      simp only [h]
      exact Leads.pure
    | error fault =>
      simp only [h]
      exact Leads.fail

lemma leads_applyTest (env : Env) (name : String) (v : Value) (args : List Value)
    (pos : Position) : Leads P (applyTest env name v args pos) P := by
  unfold applyTest
  cases env.engine.registry.test? name with
  | none => exact Leads.fail
  | some test =>
    cases h : test v args with
    | ok passed =>
      simp only [h]
      exact Leads.pure
    | error fault =>
      simp only [h]
      exact Leads.fail

lemma leads_leftover (flow : Flow) : Leads P (leftover flow) P := by
  cases flow with
  | normal => exact Leads.pure
  | exitLoop pos | nextItem pos => exact Leads.fail

lemma leads_here : Leads P here P := Leads.get_bind fun _ _ => Leads.pure

lemma leads_lookup (root : Dict Value) (name : String) : Leads P (lookup root name) P :=
  Leads.get_bind fun _ _ => Leads.pure

lemma leads_printValue (v : Value) : Leads P (printValue v) P :=
  Leads.get_bind fun _ _ => Leads.pure

lemma leads_mapView (target : Value) (method : String) (pos : Position) :
    Leads P (mapView target method pos) P := by
  have hview : ∀ entries, Leads P (mapView (.map entries) method pos) P := by
    intro entries
    simp only [mapView]
    split
    · exact Leads.pure
    · exact Leads.pure
    · exact Leads.pure
    · exact Leads.fail
  cases target with
  | map entries => exact hview entries
  | undefined | null => exact hview []
  | _ => exact Leads.fail

lemma leads_aliased (env : Env) (base : Expr) : Leads P (aliased env base) P := by
  cases base with
  | var name =>
    refine Leads.bind (leads_lookup env.root name) fun v => Leads.ite ?_ Leads.pure
    exact Leads.get_bind fun _ _ => Leads.pure
  | _ => exact Leads.pure

/-! ### Variables and waiting templates -/

lemma written_modify {id : Nat} (h : s.current = some id) {f : Scope → Scope}
    (hf : ∀ c, (f c).parent = c.parent) :
    Written quiet s { s with scopes := s.scopes.modify id f } := by
  refine ⟨⟨_, _, _, rfl, fun _ => rfl⟩, fun id' hid' => ?_, fun hnone => nomatch h.symm.trans hnone⟩
  obtain rfl : id = id' := Option.some.inj (h.symm.trans hid')
  refine ⟨hid', Array.size_modify, fun j hj => ?_, fun j => ?_⟩
  · rw [Array.getElem?_modify, if_neg (Ne.symm hj)]
  · rw [Array.getElem?_modify]
    split
    · rw [Option.map_map]
      exact congrFun (congrArg Option.map (funext hf)) _
    · rfl

lemma written_setLocal (name : String) (v : Value) :
    Leads (Written quiet s₀) (setLocal name v) (Written quiet s₀) := by
  refine Leads.update fun s hs => hs.trans ?_
  split
  · exact written_modify ‹_› fun _ => rfl
  · rename_i hnone
    exact ⟨⟨_, _, _, rfl, fun _ => rfl⟩, fun id hid => (nomatch hnone.symm.trans hid),
      fun _ => .inr ⟨_, rfl, rfl⟩⟩

lemma written_setLocals (vars : List (String × Value)) :
    Leads (Written quiet s₀) (setLocals vars) (Written quiet s₀) := by
  induction vars with
  | nil => exact Leads.pure
  | cons v more ih => exact Leads.bind (written_setLocal v.1 v.2) fun _ => ih

lemma leads_enter {env : Env} {path : String} {pos : Position}
    (h : ∀ s, P s → Q { s with active := path :: s.active }) : Leads P (enter env path pos) Q := by
  have hfetch : ∀ s, Leads (Eq s) (liftM (env.engine.fetch path) : RenderM _) (Eq s) := by
    rintro s _ σ r _ τ rfl ⟨⟩
    rfl
  unfold enter
  refine Leads.get_bind_self fun s hs => Leads.guard (Leads.guard ?_)
  refine Leads.bind (hfetch s) fun r => ?_
  cases r with
  | error e =>
    cases e with
    | load e | source e => exact Leads.fail
  | ok l =>
    refine Leads.modify_bind Q ?_ Leads.pure
    rintro _ rfl
    exact h s hs

lemma leads_leave (h : ∀ s, P s → Q { s with active := s.active.tail }) : Leads P leave Q :=
  Leads.update h

end Stencil.Render
