import Stencil.Proofs.Moments
import Stencil.Proofs.UpheldInstr

/-! A regime holds at all moments of a run: what one step leads to keeps to it again. -/
namespace Stencil.Render

open Instr (confinedAll)

variable {env : Env} {c : Regime env} {m m' : Moment}

mutual

/-- What may stand outside of loops may stand in a loop. -/
lemma confined_true {i : Instr} (h : i.confined false = true) : i.confined true = true := by
  cases i with
  | exitLoop | nextItem => cases h
  | forEach binding iterable body otherwise pos =>
    obtain ⟨hbody, hother⟩ := Bool.and_eq_true_iff.mp h
    exact Bool.and_eq_true_iff.mpr ⟨hbody, confinedAll_true hother⟩
  | branch condition body otherwise pos =>
    obtain ⟨hbody, hother⟩ := Bool.and_eq_true_iff.mp h
    exact Bool.and_eq_true_iff.mpr ⟨confinedAll_true hbody, confinedAll_true hother⟩
  | autoescape | filtered | «scoped» => exact confinedAll_true h
  | _ => exact h

lemma confinedAll_true {code : List Instr} (h : confinedAll false code = true) :
    confinedAll true code = true := by
  cases code with
  | nil => rfl
  | cons i more =>
    obtain ⟨hi, hmore⟩ := Bool.and_eq_true_iff.mp h
    exact Bool.and_eq_true_iff.mpr ⟨confined_true hi, confinedAll_true hmore⟩

end

namespace Regime

/-- The values that wait to be stored have the property of values. Controls in the code that is to
be run may stand in a loop around it, but not in a loop around a unit of code. -/
def Begins (c : Regime env) : Job → Prop
  | .setUp body => c.Allows (confinedAll false body)
  | .code body => c.Allows (confinedAll true body)
  | .rounds _ _ body _ _ items => c.Allows (confinedAll true body) ∧ ∀ v ∈ items, c.value v
  | .entering vars body => c.Allows (confinedAll true body) ∧ ∀ e ∈ vars, c.value e.2
  | .calling _ _ caller _ => ∀ w ∈ caller, c.Waits w
  | .invoking m args caller _ =>
    c.Allows (confinedAll false m.body) ∧ (∀ a ∈ args, c.value a) ∧ ∀ w ∈ caller, c.Waits w
  | .params _ args body _ => c.Allows (confinedAll false body) ∧ ∀ a ∈ args, c.value a
  | .placing w => c.Waits w
  | .template | .expr _ _ | .exprs _ _ | .load _ _ | .imports _ => True

/-- The moment keeps to the regime. -/
structure Keeps (c : Regime env) (m : Moment) : Prop where
  template : c.Fits m.template
  job : c.Begins m.job
  holds : c.Holds m.state m.session

lemma Allows.inside {code : List Instr} (h : c.Allows (confinedAll false code)) :
    c.Allows (confinedAll true code) := fun hc => confinedAll_true (h hc)

/-- What a path leads to may run. -/
lemma Holds.entered {n : Nat} {t parent : Template} {path : Expr} {pos : Position} {name : String}
    {s s₁ s' : State} {σ σ₁ σ' : Session} (hs : c.Holds s σ) (ht : c.Fits t)
    (heval : Yields (evalPath env (callsAt env n) t path pos) s σ name s₁ σ₁)
    (henter : Yields (enter env name pos) s₁ σ₁ parent s' σ') :
    c.Fits parent ∧ c.Holds s' σ' := by
  obtain ⟨-, hs₁⟩ := (upholds_evalPath (serves_callsAt c n) ht path pos).of_yields hs heval
  exact (upholds_enter name pos).of_yields hs₁ henter

/-- Every step leads to a moment that keeps to the regime. -/
theorem Keeps.step (hm : c.Keeps m) (h : Meets env m m') : c.Keeps m' := by
  obtain ⟨ht, hjob, hs⟩ := hm
  have hk : ∀ n, c.Serves (callsAt env n) := serves_callsAt c
  cases h with
  | start => exact ⟨ht, ht.body.inside, hs⟩
  | extend =>
    exact ⟨ht, ht.body, { hs with overrides := fits_addOverrides ht hs.overrides }⟩
  | settle =>
    obtain ⟨hi, -⟩ := allows_and.mp hjob
    exact ⟨ht, fun hc => Template.confinedAll_single.trans (confined_true (hi hc)), hs⟩
  | settled _ run | pass run =>
    obtain ⟨hi, hmore⟩ := allows_and.mp hjob
    exact ⟨ht, hmore, ((upholds_exec (hk _) ht _ hi).of_yields hs run).2⟩
  | skip => exact ⟨ht, (allows_and.mp hjob).2, hs⟩
  | ascend _ heval henter =>
    obtain ⟨hparent, hs'⟩ := hs.entered ht heval henter
    exact ⟨hparent, trivial, hs'⟩
  | loaded heval henter =>
    obtain ⟨himported, hs'⟩ := hs.entered ht heval henter
    exact ⟨himported, trivial, hs'⟩
  | @including _ _ _ _ _ _ _ _ _ _ _ s' _ heval henter =>
    obtain ⟨hincluded, hs'⟩ := hs.entered ht heval henter
    have hfree : c.Holds { s' with overrides := [] } _ :=
      { hs' with overrides := List.forall_mem_nil _ }
    exact ⟨hincluded, trivial, hfree.opened _⟩
  | @branch _ _ _ body otherwise _ _ _ _ v _ _ run =>
    obtain ⟨hbody, hother⟩ := allows_and.mp (allows_and.mp hjob).1
    have hchosen : c.Allows (confinedAll true (if v.isTruthy then body else otherwise)) := by
      split
      · exact hbody
      · exact hother
    exact ⟨ht, hchosen, ((upholds_eval (hk _) ht _ _).of_yields hs run).2⟩
  | otherwise run =>
    obtain ⟨-, hother⟩ := allows_and.mp (allows_and.mp hjob).1
    exact ⟨ht, hother, ((upholds_eval (hk _) ht _ _).of_yields hs run).2⟩
  | rounds run filled =>
    obtain ⟨hbody, -⟩ := allows_and.mp (allows_and.mp hjob).1
    obtain ⟨hv, hs'⟩ := (upholds_eval (hk _) ht _ _).of_yields hs run
    exact ⟨ht, ⟨hbody, c.hereditary.loopItems hv filled⟩, hs'⟩
  -- The variables of a round are those of its item and the state of the loop.
  | round bound =>
    obtain ⟨hbody, hitems⟩ := hjob
    have hitem := (List.forall_mem_cons.mp hitems).1
    refine ⟨ht, ⟨hbody, fun e he => ?_⟩, hs.opened _⟩
    rcases List.mem_append.mp he with he | he
    · exact c.hereditary.bindItem hitem bound e he
    · rw [List.mem_singleton.mp he]
      exact c.hereditary.loopState _ _
  | nextRound run =>
    obtain ⟨hbody, hitems⟩ := hjob
    obtain ⟨hitem, hmore⟩ := List.forall_mem_cons.mp hitems
    obtain ⟨-, hs'⟩ := (upholds_playRound (hk _) ht _ _ hbody _ _ hitem).of_yields hs run
    exact ⟨ht, ⟨hbody, hmore⟩, hs'⟩
  | callBlock =>
    refine ⟨ht, ?_, hs⟩
    rintro _ ⟨⟩
    exact ⟨(allows_and.mp hjob).1, ht, hs.imports⟩
  | «scoped» run =>
    obtain ⟨hvars, hs'⟩ := (upholds_evalBindings (hk _) ht _ _).of_yields hs run
    exact ⟨ht, ⟨(allows_and.mp hjob).1, hvars⟩, hs'.opened _⟩
  | @block _ _ name _ _ _ _ placed =>
    have howner := hs.owner ht name
    exact ⟨howner, (howner.block placed).inside, hs⟩
  | autoescape => exact ⟨ht, (allows_and.mp hjob).1, { hs with }⟩
  | filtered => exact ⟨ht, (allows_and.mp hjob).1, hs⟩
  | filterArgs run filters =>
    obtain ⟨hbody, -⟩ := allows_and.mp hjob
    obtain ⟨-, hs₁⟩ := (upholds_execAll (hk _) ht "" _ hbody).of_yields hs run
    obtain ⟨-, hs'⟩ :=
      (upholds_applyFilters (hk _) ht _ _ (c.safe _)).of_yields hs₁ filters
    exact ⟨ht, trivial, hs'⟩
  | entering run =>
    obtain ⟨hbody, hvars⟩ := hjob
    obtain ⟨hv, hmore⟩ := List.forall_mem_cons.mp hvars
    exact ⟨ht, ⟨hbody, hmore⟩, ((upholds_setLocal _ hv).of_yields hs run).2⟩
  | entered => exact ⟨ht, hjob.1, hs⟩
  | next run | both run | either run | chosen run | unchosen run =>
    exact ⟨ht, trivial, ((upholds_eval (hk _) ht _ _).of_yields hs run).2⟩
  | call | callMember => exact ⟨ht, fun _ hw => (nomatch hw), hs⟩
  | parentPath | operands | importing | parts | first | args | base | memberArgs | default | path
  | inner | skipInner => exact ⟨ht, trivial, hs⟩
  | named found run =>
    obtain ⟨hargs, hs'⟩ := (upholds_evalAll (hk _) ht _ _).of_yields hs run
    exact ⟨ht, ⟨ht.macroDef found, hargs, hjob⟩, hs'⟩
  | @caller _ _ _ _ _ _ _ s' _ w callers _ run innermost =>
    obtain ⟨-, hs'⟩ := (upholds_evalAll (hk _) ht _ _).of_yields hs run
    have hwaiting := hs'.callers
    rw [innermost] at hwaiting
    obtain ⟨hw, hrest⟩ := List.forall_mem_cons.mp hwaiting
    have hplaced : c.Holds { s' with callers, imports := w.imports } _ :=
      { hs' with callers := hrest, imports := hw.imports }
    exact ⟨hw.template, hw, hplaced.opened _⟩
  | member known found run =>
    obtain ⟨hnamed, -⟩ := (upholds_aliased _).of_yields hs known
    have hmodule := hnamed _ rfl
    obtain ⟨hargs, hs'⟩ := (upholds_evalAll (hk _) ht _ _).of_yields hs run
    exact ⟨hmodule.template, ⟨hmodule.template.macroDef found, hargs, hjob⟩,
      { hs' with imports := hmodule.imports }⟩
  | @invoke _ _ _ _ caller _ s =>
    obtain ⟨hbody, hargs, hcaller⟩ := hjob
    have hwaiting : ∀ w ∈ caller.toList ++ s.callers, c.Waits w := by
      intro w hw
      obtain hw | hw := List.mem_append.mp hw
      · exact hcaller w (Option.mem_toList.mp hw)
      · exact hs.callers w hw
    have hcalled : c.Holds { s with
        callers := caller.toList ++ s.callers, macroDepth := s.macroDepth + 1 } _ :=
      { hs with callers := hwaiting }
    exact ⟨ht, ⟨hbody, hargs⟩, hcalled.opened _⟩
  | @bound _ _ _ _ args _ _ _ _ _ _ run =>
    obtain ⟨hbody, hargs⟩ := hjob
    have hfirst : ∀ a ∈ args.take 1, c.value a := fun a ha => hargs a (List.mem_of_mem_take ha)
    obtain ⟨-, hs'⟩ := (upholds_bindParams (hk _) ht _ _ hfirst).of_yields hs run
    exact ⟨ht, ⟨hbody, fun a ha => hargs a (List.mem_of_mem_tail ha)⟩, hs'⟩
  | body => exact ⟨ht, hjob.1.inside, hs⟩
  | placed => exact ⟨ht, hjob.body.inside, hs⟩
  | nextInner run => exact ⟨ht, trivial, (((hk _).load ht _ _).of_yields hs run).2⟩

lemma Keeps.within (hm : c.Keeps m) (h : Within env m m') : c.Keeps m' := by
  induction h with
  | refl => exact hm
  | tail _ hnext ih => exact ih.step hnext

/-- Where a template begins that may run, with nothing but the variables of the caller. -/
lemma keeps_initial {t : Template} {σ : Session} (ht : c.Fits t) (hσ : σ.All c.Fits) (n : Nat) :
    c.Keeps ⟨n, t, .template, State.initial env t, σ⟩ where
  template := ht
  job := trivial
  holds := {
    values := nofun
    overrides := List.forall_mem_nil _
    imports := List.forall_mem_nil _
    callers := List.forall_mem_nil _
    session := hσ }

end Regime

end Stencil.Render
