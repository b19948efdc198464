import Stencil.Proofs.Coupling

/-! Coupled states stay coupled when scopes are opened and closed, variables are stored and imports
are swapped, and variables have the same values in both. -/
namespace Stencil.Render

variable {α β : Type} {s t : State} {σ τ : Session}

/-! ### Scopes and imports around an action -/

lemma run_inScope_ok {act : RenderM α} {l : Link} {a : α}
    (h : (act.run { s with
      scopes := s.scopes.push ⟨[], l⟩, current := some s.scopes.size }).run σ = (.ok (a, t), τ)) :
    ((inScope l act).run s).run σ =
      (.ok (a, { t with scopes := t.scopes.pop, current := s.current }), τ) := by
  unfold inScope
  rw [run_bind_ok _ rfl, run_bind_ok _ h]
  rfl

lemma run_inScope_error {act : RenderM α} {l : Link} {e : Stop}
    (h : (act.run { s with
      scopes := s.scopes.push ⟨[], l⟩, current := some s.scopes.size }).run σ = (.error e, τ)) :
    ((inScope l act).run s).run σ = (.error e, τ) := by
  unfold inScope
  rw [run_bind_ok _ rfl, run_bind_error _ h]

lemma run_withImports_ok {act : RenderM α} {imports : Dict Module} {a : α}
    (h : (act.run { s with imports }).run σ = (.ok (a, t), τ)) :
    ((withImports imports act).run s).run σ = (.ok (a, { t with imports := s.imports }), τ) := by
  unfold withImports
  rw [run_bind_ok _ rfl, run_bind_ok _ rfl, run_bind_ok _ h]
  rfl

lemma run_withImports_error {act : RenderM α} {imports : Dict Module} {e : Stop}
    (h : (act.run { s with imports }).run σ = (.error e, τ)) :
    ((withImports imports act).run s).run σ = (.error e, τ) := by
  unfold withImports
  rw [run_bind_ok _ rfl, run_bind_ok _ rfl, run_bind_error _ h]

namespace Coupling

variable {c : Coupling} {s' t' : State} {V : α → β → Prop}

lemma clean_no_variables : c.policy.Clean (.map []) :=
  Value.clean_map.mpr (List.forall_mem_nil _)

lemma States.pushed (h : c.States s s') {vars : Dict Value} (hvars : c.policy.Clean (.map vars))
    {l l' : Link} (hl : c.Links l l') :
    c.States { s with scopes := s.scopes.push ⟨vars, l⟩, current := some s.scopes.size }
      { s' with scopes := s'.scopes.push ⟨vars, l'⟩, current := some s'.scopes.size } := by
  obtain ⟨n, hn, hn'⟩ := h.size
  have hscopes : ∀ {k x x'}, (s.scopes.push ⟨vars, l⟩)[c.base + k]? = some x →
      (s'.scopes.push ⟨vars, l'⟩)[c.base' + k]? = some x' → c.Scopes x x' := by
    intro k x x' hx hx'
    rw [Array.getElem?_push] at hx hx'
    -- Both new scopes have the same distance from their bases.
    by_cases hk : k = n
    · rw [if_pos (by omega)] at hx hx'
      cases hx
      cases hx'
      exact ⟨rfl, hvars, hl⟩
    · rw [if_neg (by omega)] at hx hx'
      exact h.scopes hx hx'
  have hhere : c.Links (.scope s.scopes.size) (.scope s'.scopes.size) := by
    rw [hn, hn']
    exact .scope n
  exact { h with
    size := ⟨n + 1, by simp [hn]; omega, by simp [hn']; omega⟩
    scopes := hscopes
    here := hhere }

/-- Closing a scope that was opened on top of the states `s` and `s'`. -/
lemma States.popped (h : c.States s s') (ht : c.States t t')
    (hsize : s.scopes.size < t.scopes.size) :
    c.States { t with scopes := t.scopes.pop, current := s.current }
      { t' with scopes := t'.scopes.pop, current := s'.current } := by
  obtain ⟨n, hn, hn'⟩ := h.size
  obtain ⟨m, hm, hm'⟩ := ht.size
  have hscopes : ∀ {k x x'}, t.scopes.pop[c.base + k]? = some x →
      t'.scopes.pop[c.base' + k]? = some x' → c.Scopes x x' := by
    intro k x x' hx hx'
    rw [Array.getElem?_pop] at hx hx'
    split at hx
    · split at hx'
      · exact ht.scopes hx hx'
      · cases hx'
    · cases hx
  exact { ht with
    size := ⟨m - 1, by simp [hm]; omega, by simp [hm']; omega⟩
    scopes := hscopes
    here := h.here }

lemma Lockstep.inScope {x : RenderM α} {y : RenderM β} (h : c.Lockstep V x y) {l l' : Link}
    (hl : c.Links l l') : c.Lockstep V (inScope l x) (inScope l' y) := by
  intro s s' σ σ' hs hσ
  rcases (h (hs.pushed clean_no_variables hl) hσ).cases with
    ⟨a, b, t, t', τ, τ', hr, hr', hv, ht, hsize, hτ⟩ | ⟨e, τ, τ', hr, hr', hstop, hτ⟩ |
    ⟨τ, hr, hspent⟩
  · rw [run_inScope_ok hr, run_inScope_ok hr']
    rw [Array.size_push] at hsize
    refine .ok hv (hs.popped ht hsize) ?_ hτ
    simp only [Array.size_pop]
    omega
  · rw [run_inScope_error hr, run_inScope_error hr']
    exact .error hstop hτ
  · rw [run_inScope_error hr]
    exact .spent hspent

lemma Lockstep.withImports {x : RenderM α} {y : RenderM β} (h : c.Lockstep V x y)
    {imports : Dict Module} (hm : ∀ e ∈ imports, e.2.Within c.policy.admits) :
    c.Lockstep V (withImports imports x) (withImports imports y) := by
  intro s s' σ σ' hs hσ
  have hin : c.States { s with imports } { s' with imports } :=
    { hs with imports := rfl, modules := hm }
  rcases (h hin hσ).cases with ⟨a, b, t, t', τ, τ', hr, hr', hv, ht, hsize, hτ⟩ |
    ⟨e, τ, τ', hr, hr', hstop, hτ⟩ | ⟨τ, hr, hspent⟩
  · rw [run_withImports_ok hr, run_withImports_ok hr']
    exact .ok hv { ht with imports := hs.imports, modules := hs.modules } hsize hτ
  · rw [run_withImports_error hr, run_withImports_error hr']
    exact .error hstop hτ
  · rw [run_withImports_error hr]
    exact .spent hspent

/-! ### Variables -/

lemma States.current_cases (h : c.States s s') :
    (c.rooted ∧ s.current = none ∧ s'.current = none) ∨
      ∃ k, s.current = some (c.base + k) ∧ s'.current = some (c.base' + k) := by
  have hl := h.here
  unfold State.here at hl
  cases hc : s.current with
  | none =>
    cases hc' : s'.current with
    | none =>
      rw [hc, hc'] at hl
      cases hl with
      | root hr => exact .inl ⟨hr, rfl, rfl⟩
    | some id =>
      rw [hc, hc'] at hl
      cases hl
  | some id =>
    cases hc' : s'.current with
    | none =>
      rw [hc, hc'] at hl
      cases hl
    | some id' =>
      rw [hc, hc'] at hl
      cases hl with
      | scope k => exact .inr ⟨k, rfl, rfl⟩

lemma States.stored (h : c.States s s') (name : String) {v : Value} (hv : c.policy.Clean v)
    (k : Nat) :
    c.States
      { s with scopes := s.scopes.modify (c.base + k) fun x =>
          { x with vars := Dict.insert name v x.vars } }
      { s' with scopes := s'.scopes.modify (c.base' + k) fun x =>
          { x with vars := Dict.insert name v x.vars } } := by
  obtain ⟨n, hn, hn'⟩ := h.size
  refine { h with size := ⟨n, by simpa using hn, by simpa using hn'⟩, scopes := ?_ }
  intro j x x' hx hx'
  rw [Array.getElem?_modify] at hx hx'
  by_cases hj : k = j
  · rw [if_pos (by omega)] at hx hx'
    obtain ⟨y, hy, rfl⟩ := Option.map_eq_some_iff.mp hx
    obtain ⟨y', hy', rfl⟩ := Option.map_eq_some_iff.mp hx'
    have hyy := h.scopes hy hy'
    exact ⟨by simp only [hyy.vars], Value.hereditary_clean.insert hyy.clean hv, hyy.parent⟩
  · rw [if_neg (by omega)] at hx hx'
    exact h.scopes hx hx'

lemma agree_setLocal {name : String} {v : Value} (hv : c.policy.Clean v) :
    c.Agree (fun _ => True) (setLocal name v) (setLocal name v) := by
  refine Lockstep.update ?_ ?_
  · intro s s' h
    rcases h.current_cases with ⟨hr, hc, hc'⟩ | ⟨k, hc, hc'⟩
    · simp only [hc, hc']
      exact h.pushed (Value.clean_map.mpr (by simpa using hv)) (.root hr)
    · have hs := h.stored name hv k
      simp only [hc, hc'] at hs ⊢
      exact hs
  · intro s
    split <;> simp

lemma agree_setLocals {vars : List (String × Value)} (hv : ∀ e ∈ vars, c.policy.Clean e.2) :
    c.Agree (fun _ => True) (setLocals vars) (setLocals vars) := by
  unfold setLocals
  induction vars with
  | nil => exact Agree.pure trivial
  | cons e more ih =>
    obtain ⟨he, hmore⟩ := List.forall_mem_cons.mp hv
    exact Agree.bind (agree_setLocal he) fun _ _ => ih hmore

lemma Links.height_le_iff {l l' : Link} (h : c.Links l l') (k : Nat) :
    l.height ≤ c.base + k ↔ l'.height ≤ c.base' + k := by
  cases h with
  | scope j =>
    simp only [Link.height]
    omega
  | root | isolated => simp [Link.height]

/-- Along links that lead to the same variables the same value is found. -/
lemma lookupFrom_eq (h : c.States s s') (name : String) {l l' : Link} (hl : c.Links l l') :
    lookupFrom s.scopes c.env.root name l = lookupFrom s'.scopes c.env'.root name l' ∧
      c.policy.Clean (lookupFrom s.scopes c.env.root name l) := by
  -- Links lead to scopes below, alike in both runs, so that the height falls.
  induction hh : l.height using Nat.strongRecOn generalizing l l' with
  | ind height ih =>
    cases hl with
    | root hr =>
      obtain ⟨he, hclean⟩ := c.root hr
      rw [lookupFrom, lookupFrom, ← he]
      exact ⟨rfl, Value.hereditary_clean.getD_get? name hclean⟩
    | isolated =>
      rw [lookupFrom, lookupFrom]
      exact ⟨rfl, Value.clean_undefined⟩
    | scope k =>
      obtain ⟨n, hn, hn'⟩ := h.size
      rw [lookupFrom, lookupFrom]
      cases hx : s.scopes[c.base + k]? with
      | none =>
        have hx' : s'.scopes[c.base' + k]? = none := by
          rw [Array.getElem?_eq_none_iff] at hx ⊢
          omega
        rw [hx']
        exact ⟨rfl, Value.clean_undefined⟩
      | some x =>
        obtain ⟨hlt, -⟩ := Array.getElem?_eq_some_iff.mp hx
        have hx' : s'.scopes[c.base' + k]? = some s'.scopes[c.base' + k] :=
          Array.getElem?_eq_getElem (by omega)
        have hxx := h.scopes hx hx'
        simp only [hx', ← hxx.vars]
        cases hv : Dict.get? x.vars name with
        | some v => exact ⟨rfl, Value.hereditary_clean.of_get? hxx.clean hv⟩
        | none =>
          have hheight := hxx.parent.height_le_iff k
          by_cases hle : x.parent.height ≤ c.base + k
          · simp only [if_pos hle, if_pos (hheight.mp hle)]
            refine ih _ ?_ hxx.parent rfl
            simp only [Link.height] at hh
            omega
          · simp only [if_neg hle, if_neg (mt hheight.mpr hle)]
            exact ⟨trivial, Value.clean_undefined⟩

/-- A variable has the same value in both runs. -/
lemma agree_lookup (name : String) :
    c.Agree c.policy.Clean (lookup c.env.root name) (lookup c.env'.root name) := by
  refine Lockstep.bind Lockstep.get fun s s' h => ?_
  exact Lockstep.pure (lookupFrom_eq h name h.here)

end Coupling
end Stencil.Render
