import Stencil.Engine.Render
import Stencil.Proofs.MirroredInstr

/-! A chain of templates that extend each other ends like its reference, and with enough fuel every
run ends so. -/
namespace Stencil.Render

variable {α : Type}

lemma renderTemplate_none {env : Env} {calls : Calls} {t : Template} (h : t.parent = none) :
    renderTemplate env calls t = do
      let (flow, output) ← execAll env calls t "" t.body
      leftover flow
      return output := by
  unfold renderTemplate
  rw [h]

lemma renderTemplate_some {env : Env} {calls : Calls} {t : Template} {p : Expr × Position}
    (h : t.parent = some p) :
    renderTemplate env calls t = do
      modify fun s => { s with overrides := addOverrides t s.overrides }
      setUp env calls t t.body
      let path ← evalPath env calls t p.1 p.2
      let parent ← enter env path p.2
      let output ← calls.render parent
      leave
      return output := by
  unfold renderTemplate
  rw [h]

lemma follow_none {env : Env} {calls : List Template → Calls} {bound : Nat}
    {derived : List Template} {t : Template} (h : t.parent = none) :
    follow env calls bound derived t = pure (derived, t) := by
  unfold follow
  rw [h]

lemma follow_some {env : Env} {calls : List Template → Calls} {bound : Nat}
    {derived : List Template} {t : Template} {p : Expr × Position} (h : t.parent = some p) :
    follow env calls (bound + 1) derived t = (do
      setUp env (calls (derived ++ [t])) t t.body
      let path ← evalPath env (calls (derived ++ [t])) t p.1 p.2
      let parent ← enter env path p.2
      follow env calls bound (derived ++ [t]) parent) := by
  conv_lhs => unfold follow
  rw [h]

/-- At the end of a template that was entered, one template less waits. -/
lemma renderBase_leave (env : Env) (calls : List Template → Calls) (path : String)
    (active : List String) (derived : List Template) (base : Template) :
    (do
      let output ← renderBase env calls (path :: active) derived base
      leave
      return output) = renderBase env calls active derived base := by
  unfold renderBase
  simp only [bind_assoc, pure_bind]
  rfl

namespace World

variable {W : World} {c : Scene} {n m : Nat} {t : Template}

/-- The waiting templates are those of the scene already. -/
lemma Steps.settle {P P' : State → Prop} {Q : α → Prop} {x y : RenderM α} {active : List String}
    (hP : ∀ s, P s → s.active = active) (h : W.Steps P P' Q x y) :
    W.Steps P P' Q x (modify (fun s => { s with active }) >>= fun _ => y) := by
  rintro s _ σ hs ⟨o, rfl⟩ hσ
  rw [run_bind_modify, ← hP s hs]
  exact h hs ⟨o, rfl⟩ hσ

/-- The end of the first run takes one waiting template away, as does that of the reference. -/
lemma Steps.leave {P : State → Prop} {Q : String → Prop} {x : RenderM String}
    {calls : List Template → Calls} {path : String} {active : List String}
    {y : RenderM (List Template × Template)}
    (h : W.Steps P (fun s => ∃ overrides, W.Holds { c.entered path with overrides } s) Q x
      (do
        let (derived, base) ← y
        renderBase W.env calls (path :: active) derived base)) :
    W.Steps P (fun s => ∃ overrides, W.Holds { c with overrides } s) Q
      (do
        let output ← x
        Render.leave
        return output)
      (do
        let (derived, base) ← y
        renderBase W.env calls active derived base) := by
  simp only [← renderBase_leave W.env calls path active, ← bind_assoc]
  refine Steps.bind h fun output ho => Steps.bind (Q := fun _ => True)
    (Steps.update ?_ ?_) fun _ _ => Steps.pure ho
  · rintro s ⟨o, hs⟩
    exact ⟨o, { hs with active := congrArg List.tail hs.active }⟩
  · rintro s _ ⟨o, rfl⟩
    exact ⟨o, rfl⟩

/-- The evaluator goes up the chain as the reference does, with one more template before the
running one at each step. -/
lemma steps_climb (hserves : ∀ j ≤ n, W.Serves j (callsAt W.env j) (referenceAt W.env m))
    (hc : W.Valid c) (ht : W.admits t) (hpin : c.pin = none)
    (hlength : c.derived.length ≤ c.active.length) (hn : W.effort c + W.width + 1 ≤ n)
    {bound : Nat} (hbound : W.maxDepth - c.active.length < bound) :
    W.Steps (W.Holds c) (fun s => ∃ overrides, W.Holds { c with overrides } s) (fun _ => True)
      (renderTemplate W.env (callsAt W.env n) t)
      (do
        let (derived, base) ← follow W.env (referenceAt W.env m) bound c.derived t
        renderBase W.env (referenceAt W.env m) c.active derived base) := by
  induction n generalizing c t bound with
  | zero => omega
  | succ n ih =>
    have hk := hserves (n + 1) (Nat.le_refl _)
    have hspares : ∀ {aliases : List String}, ∀ p ∈ c.pin, p.1 ∉ aliases := by
      rw [hpin]
      exact fun _ h => by cases h
    cases hparent : t.parent with
    | none =>
      rw [renderTemplate_none hparent, follow_none hparent, pure_bind]
      have hcode : Code c t W.width (Instr.placedAll t.body) (Instr.aliasesAll t.body) :=
        hc.code ht (W.layered ht).body hspares
      refine Steps.bind (mirrors_execAll hk hc ht hn t.body hcode) fun result _ => ?_
      refine Steps.bind (mirrors_leftover result.1) fun _ _ => ?_
      refine Steps.settle (fun s hs => hs.active) ?_
      exact (Steps.pure trivial).mono (fun _ => id) fun s hs => ⟨_, hs⟩
    | some p =>
      obtain ⟨bound, rfl⟩ : ∃ b, bound = b + 1 := ⟨bound - 1, by omega⟩
      have hbelow : W.Valid (c.below t) := hc.below ht hlength
      have hcost : W.effort (c.below t) + W.width + 1 ≤ n + 1 := hn
      rw [renderTemplate_some hparent, follow_some hparent]
      refine Steps.override (W.Holds (c.below t)) (fun s hs => ?_) ?_
      · exact { hs with overrides := congrArg (addOverrides t) hs.overrides }
      simp only [bind_assoc]
      refine Steps.bind (mirrors_setUp hk hbelow ht (by omega) t.body hspares) fun _ _ => ?_
      refine Steps.bind (mirrors_evalPath hk hbelow ht (by omega) p.1 p.2) fun path _ => ?_
      refine Steps.bind (steps_enter path p.2) fun parent hp => ?_
      -- What is left of the chain is one template shorter.
      have hactive : c.active.length < W.maxDepth := hp.2
      have hlower := effort_entered (c := c.below t) path hactive
      have hfollow : W.maxDepth - ((c.below t).entered path).active.length < bound := by
        simp only [Scene.entered, Scene.below, List.length_cons]
        omega
      have hup := ih (fun j hj => hserves j (Nat.le_succ_of_le hj)) (hbelow.entered path hactive)
        hp.1 hpin (by simpa [Scene.entered, Scene.below] using hlength) (by omega) hfollow
      refine (Steps.leave hup).mono (fun _ => id) ?_
      rintro s ⟨o, hs⟩
      exact ⟨o, { hs with }⟩

/-- With the same fuel or more, the reference mirrors the evaluator. -/
theorem serves (h : n ≤ m) : W.Serves n (callsAt W.env n) (referenceAt W.env m) := by
  -- Fuel falls only here; the effort of a scene says that it suffices for what is started.
  induction n using Nat.strongRecOn generalizing m with
  | ind n ih =>
  cases n with
  | zero =>
    exact {
      eval := fun _ _ hn => by omega
      exec := fun _ _ _ hn => by omega
      render := fun _ _ _ hn => by omega
      load := fun _ _ hn => by omega }
  | succ n =>
    obtain ⟨m, rfl⟩ : ∃ k, m = k + 1 := ⟨m - 1, by omega⟩
    have hserves : ∀ j ≤ n, W.Serves j (callsAt W.env j) (referenceAt W.env m) := fun j hj =>
      ih j (by omega) (by omega)
    have hk := hserves n (Nat.le_refl n)
    exact {
      eval := fun hc ht hn pos e => mirrors_eval hk hc ht (by omega) pos e
      exec := fun hc ht hcode hn => mirrors_execAll hk hc ht (by omega) _ hcode
      render := by
        intro c t derived hc ht hn
        change W.Steps _ _ _ (renderTemplate W.env (callsAt W.env n) t)
          (renderChain W.env (referenceAt W.env m) t)
        refine Steps.get_right ?_
        rintro s _ hs ⟨o, rfl⟩
        rw [hs.active]
        exact steps_climb hserves hc ht rfl (Nat.zero_le _) (by omega)
          (Nat.lt_succ_of_le (Nat.sub_le _ _))
      load := fun hc ht hn path pos => mirrors_loadModule hk hc ht (by omega) path pos }

end World

end Stencil.Render
