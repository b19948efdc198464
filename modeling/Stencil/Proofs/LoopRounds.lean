import Stencil.Engine.Render
import Stencil.Proofs.ScopeArena
import Stencil.Proofs.UpheldMoments

/-! Which loop a `break` or `continue` controls: the one whose round is under way in the body in
which it stands. The round ends there, the loop ends or goes on, and the code around the loop sees
nothing of it. -/
namespace Stencil

namespace Render

open Instr (confinedAll)
open Regime

variable {env : Env} {c : Regime env} {m m' p q : Moment} {s u : State} {σ τ : Session} {n : Nat}
  {t : Template}

/-! ### Inside of one round -/

/-- The code that is to be run. -/
def Job.code? : Job → Option (List Instr)
  | .code body | .entering _ body => some body
  | _ => none

/-- From a moment to the next one, or into a branch, a filter block or a scope: the code goes on in
the same unit of code and in the same body of a loop. The body of a block has less fuel. -/
structure Stays (env : Env) (m m' : Moment) : Prop where
  meets : Meets env m m'
  code : m.job.code?.isSome
  code' : m'.job.code?.isSome
  fuel : m'.fuel = m.fuel

/-- The loop of which the next round begins. -/
structure Turn where
  binding : Binding
  pos : Position
  code : List Instr
  length : Nat
  number : Nat
  item : Value
  items : List Value

def Turn.job (r : Turn) : Job :=
  .rounds r.binding r.pos r.code r.length r.number (r.item :: r.items)

/-- The round that begins at `p` has come to `m`, through the code of its body. -/
def InRound (env : Env) (r : Turn) (p m : Moment) : Prop :=
  p.job = r.job ∧ ∃ q, Meets env p q ∧ q.job.code? = some r.code ∧
    Relation.ReflTransGen (Stays env) q m

/-- There is a control in the code that stands in no loop of the code. -/
def Moment.Loose (m : Moment) : Prop := ∃ body ∈ m.job.code?, ¬ confinedAll false body = true

/-- Code with such a control is the body of a loop, or a part of that body. -/
lemma Meets.loose (hc : c.looped) (hm : c.Keeps m) (h : Meets env m m') (hloose : m'.Loose) :
    (m.Loose ∧ Stays env m m') ∨ ∃ r : Turn, m.job = r.job ∧ m'.job.code? = some r.code := by
  obtain ⟨code, hcode, hfree⟩ := hloose
  have hmeets := h
  have hinner : ∀ body ∈ m.job.code?, m'.fuel = m.fuel →
      (confinedAll false body = true → confinedAll false code = true) →
      (m.Loose ∧ Stays env m m') ∨ ∃ r : Turn, m.job = r.job ∧ m'.job.code? = some r.code := by
    intro body hbody hfuel hpart
    refine .inl ⟨⟨body, hbody, fun h => hfree (hpart h)⟩, hmeets, ?_, ?_, hfuel⟩
    · exact Option.isSome_of_mem hbody
    · exact Option.isSome_of_mem hcode
  obtain ⟨ht, hjob, hs⟩ := hm
  cases h with
  | start =>
    cases hcode
    exact absurd (ht.body hc) hfree
  | settle =>
    cases hcode
    exact absurd (Template.confinedAll_single.trans ((allows_and.mp hjob).1 hc)) hfree
  | pass =>
    cases hcode
    exact hinner _ rfl rfl fun h => (Bool.and_eq_true_iff.mp h).2
  | @branch _ _ _ _ _ _ _ _ _ v =>
    cases hcode
    refine hinner _ rfl rfl fun h => ?_
    obtain ⟨hbody, hother⟩ := Bool.and_eq_true_iff.mp (Bool.and_eq_true_iff.mp h).1
    split
    · exact hbody
    · exact hother
  | otherwise =>
    cases hcode
    exact hinner _ rfl rfl fun h =>
      (Bool.and_eq_true_iff.mp (Bool.and_eq_true_iff.mp h).1).2
  | @round _ _ binding pos code length i item items =>
    cases hcode
    exact .inr ⟨⟨binding, pos, code, length, i, item, items⟩, rfl, rfl⟩
  | «scoped» | autoescape | filtered =>
    cases hcode
    exact hinner _ rfl rfl fun h => (Bool.and_eq_true_iff.mp h).1
  | @block _ _ name _ _ _ _ placed =>
    cases hcode
    exact absurd ((hs.owner ht name).block placed hc) hfree
  | entering | entered =>
    cases hcode
    exact hinner _ rfl rfl id
  | body =>
    cases hcode
    exact absurd (hjob.1 hc) hfree
  | placed =>
    cases hcode
    exact absurd (hjob.body hc) hfree
  | _ => cases hcode

/-- A control that is reached stands in the body of a loop whose round is under way. -/
theorem Within.exists_round (hc : c.looped) (hm : c.Keeps m) (hstart : ¬ m.Loose)
    (h : Within env m m') (hloose : m'.Loose) :
    ∃ r p, Within env m p ∧ InRound env r p m' := by
  induction h with
  | refl => exact absurd hloose hstart
  | @tail q m' hq hnext ih =>
    obtain ⟨hq', hstays⟩ | ⟨r, hjob, hcode⟩ := hnext.loose hc (hm.within hq) hloose
    · obtain ⟨r, p, hp, hround, first, hfirst, hcode, hpath⟩ := ih hq'
      exact ⟨r, p, hp, hround, first, hfirst, hcode, hpath.tail hstays⟩
    · exact ⟨r, q, hq, hjob, m', hnext, hcode, .refl⟩

/-! ### What a control does to its round -/

/-- The instruction that gives the flow. -/
def Flow.control? : Flow → Option Instr
  | .normal => none
  | .exitLoop pos => some (.exitLoop pos)
  | .nextItem pos => some (.nextItem pos)

/-- Runs the code of the moment, in the scope that has been opened for it. What is written goes
behind `output`. -/
def Moment.runCode (env : Env) (m : Moment) (output : String) : RenderM (Flow × String) :=
  match m.job with
  | .code body => execAll env (callsAt env m.fuel) m.template output body
  | .entering vars body => do
    setLocals vars
    execAll env (callsAt env m.fuel) m.template output body
  | _ => outOfFuel

/-- If the code of the moment ends well, then with the flow. -/
def Moment.Forces (env : Env) (m : Moment) (f : Flow) : Prop :=
  ∀ output r u τ, Yields (m.runCode env output) m.state m.session r u τ → r.1 = f

lemma Yields.bind {α β : Type} {x : RenderM α} {g : α → RenderM β} {a : α} {b : β} {v : State}
    {υ : Session} (hx : Yields x s σ a u τ) (hg : Yields (g a) u τ b v υ) :
    Yields (x >>= g) s σ b v υ := by
  unfold Yields
  rw [run_bind_ok g hx]
  exact hg

lemma Yields.of_pure {α : Type} {a b : α} (h : Yields (pure a : RenderM α) s σ b u τ) :
    b = a ∧ u = s ∧ τ = σ := by
  cases h
  exact ⟨rfl, rfl, rfl⟩

/-- Behind an instruction that does not end normally nothing is run. -/
lemma forces_cons {f : Flow} (hf : f ≠ .normal) {i : Instr} {more : List Instr}
    (h : ∀ r u τ, Yields (exec env (callsAt env n) t i) s σ r u τ → r.1 = f) :
    Moment.Forces env ⟨n, t, .code (i :: more), s, σ⟩ f := by
  intro output r u τ hr
  change Yields (execAll env (callsAt env n) t output (i :: more)) s σ r u τ at hr
  rw [execAll] at hr
  obtain ⟨⟨flow, written⟩, s₁, σ₁, hi, hrest⟩ := hr.of_bind
  obtain rfl := h _ _ _ hi
  cases flow with
  | normal => exact absurd rfl hf
  | exitLoop pos | nextItem pos =>
    obtain ⟨rfl, -, -⟩ := Yields.of_pure hrest
    rfl

/-- The moment is at the control that gives the flow. -/
def Moment.StandsAt (m : Moment) (f : Flow) : Prop :=
  ∃ i more, m.job = .code (i :: more) ∧ f.control? = some i

lemma Moment.StandsAt.forces {f : Flow} (h : m.StandsAt f) : m.Forces env f := by
  obtain ⟨n, t, job, s, σ⟩ := m
  obtain ⟨i, more, rfl, hi⟩ := h
  have hf : f ≠ .normal := by
    rintro rfl
    cases hi
  refine forces_cons hf fun r u τ hr => ?_
  cases f with
  | normal => exact absurd rfl hf
  | exitLoop pos | nextItem pos =>
    cases hi
    rw [exec] at hr
    obtain ⟨rfl, -, -⟩ := Yields.of_pure hr
    rfl

/-- What a part of the code comes to, the code comes to as well. -/
lemma Stays.forces {f : Flow} (hf : f ≠ .normal) (h : Stays env m m') (hm : m'.Forces env f) :
    m.Forces env f := by
  obtain ⟨hmeets, hcode, hcode', hfuel⟩ := h
  cases hmeets with
  | pass run =>
    intro output r u τ hr
    unfold Moment.runCode at hr
    dsimp only at hr
    rw [execAll] at hr
    obtain ⟨⟨flow, written⟩, s₁, σ₁, hi, hrest⟩ := hr.of_bind
    obtain ⟨hpair, rfl, rfl⟩ := hi.unique run
    cases hpair
    exact hm _ _ _ _ hrest
  | branch run =>
    refine forces_cons hf fun r u τ hr => ?_
    rw [exec] at hr
    obtain ⟨v, s₁, σ₁, heval, hrest⟩ := hr.of_bind
    obtain ⟨rfl, rfl, rfl⟩ := heval.unique run
    refine hm "" r u τ ?_
    unfold Moment.runCode
    dsimp only
    split at hrest <;> rename_i hv
    · rwa [if_pos hv]
    · rwa [if_neg hv]
  | otherwise run empty =>
    refine forces_cons hf fun r u τ hr => ?_
    rw [exec] at hr
    obtain ⟨v, s₁, σ₁, heval, hrest⟩ := hr.of_bind
    obtain ⟨rfl, rfl, rfl⟩ := heval.unique run
    rw [empty] at hrest
    exact hm "" r u τ hrest
  | «scoped» run =>
    refine forces_cons hf fun r u τ hr => ?_
    rw [exec] at hr
    obtain ⟨vars, s₁, σ₁, hvars, hrest⟩ := hr.of_bind
    obtain ⟨rfl, rfl, rfl⟩ := hvars.unique run
    obtain ⟨l, _, _, hl, hscope⟩ := hrest.of_bind
    cases hl
    obtain ⟨v, hinner, -⟩ := hscope.of_inScope
    exact hm "" r v τ hinner
  | autoescape =>
    refine forces_cons hf fun r u τ hr => ?_
    rw [exec] at hr
    obtain ⟨_, _, _, hget, hrest⟩ := hr.of_bind
    cases hget
    obtain ⟨_, _, _, hmodify, hrest⟩ := hrest.of_bind
    cases hmodify
    obtain ⟨r', v, υ, hbody, hrest⟩ := hrest.of_bind
    obtain ⟨_, _, _, -, hpure⟩ := hrest.of_bind
    obtain ⟨rfl, -, -⟩ := hpure.of_pure
    exact hm "" _ _ _ hbody
  | filtered =>
    refine forces_cons hf fun r u τ hr => ?_
    rw [exec] at hr
    obtain ⟨⟨flow, output⟩, v, υ, hbody, hrest⟩ := hr.of_bind
    obtain ⟨_, _, _, -, hrest⟩ := hrest.of_bind
    obtain ⟨_, _, _, -, hpure⟩ := hrest.of_bind
    obtain ⟨rfl, -, -⟩ := hpure.of_pure
    exact hm "" (flow, output) _ _ hbody
  | entering run =>
    intro output r u τ hr
    obtain ⟨_, _, _, hvars, hrest⟩ := Yields.of_bind hr
    obtain ⟨_, _, _, hv, hvars⟩ := Yields.of_bind hvars
    obtain ⟨-, rfl, rfl⟩ := hv.unique run
    exact hm output r u τ (hvars.bind hrest)
  | entered =>
    intro output r u τ hr
    obtain ⟨_, _, _, hvars, hrest⟩ := Yields.of_bind hr
    cases hvars
    exact hm output r u τ hrest
  | block => exact absurd hfuel (Nat.ne_of_lt (Nat.lt_succ_self _))
  | start | settle | round | body | placed => cases hcode
  | _ => cases hcode'

lemma forces_of_path {f : Flow} (hf : f ≠ .normal)
    (h : Relation.ReflTransGen (Stays env) m m') (hm : m'.Forces env f) : m.Forces env f := by
  induction h with
  | refl => exact hm
  | tail _ hstays ih => exact ih (hstays.forces hf hm)

/-- Plays the round. -/
def Turn.play (env : Env) (r : Turn) (p : Moment) : RenderM (Flow × String) :=
  playRound env (callsAt env p.fuel) p.template r.binding r.pos r.code r.length r.number r.item

/-- The loop from the round on, behind `output`. -/
def Turn.loop (env : Env) (r : Turn) (p : Moment) (output : String) : RenderM String :=
  Render.loop r.binding r.pos (execAll env (callsAt env p.fuel) p.template "" r.code) r.length
    r.number output (r.item :: r.items)

/-- The loop from the round behind this one on. -/
def Turn.goOn (env : Env) (r : Turn) (p : Moment) (output : String) : RenderM String :=
  Render.loop r.binding r.pos (execAll env (callsAt env p.fuel) p.template "" r.code) r.length
    (r.number + 1) output r.items

variable {r : Turn} {f : Flow}

lemma setLocals_append (a b : List (String × Value)) :
    setLocals (a ++ b) = setLocals a >>= fun _ => setLocals b := by
  induction a with
  | nil => rfl
  | cons v more ih =>
    change setLocal v.1 v.2 >>= (fun _ => setLocals (more ++ b)) = _
    rw [ih]
    rfl

/-- A round comes to what its first moment comes to. -/
lemma InRound.play_eq (h : InRound env r p m) (hf : f ≠ .normal) (hm : m.Forces env f)
    {x : Flow × String} (hr : Yields (r.play env p) p.state p.session x u τ) : x.1 = f := by
  obtain ⟨hjob, q, hmeets, hcode, hpath⟩ := h
  have hforces := forces_of_path hf hpath hm
  obtain ⟨n, t, job, s, σ⟩ := p
  cases (hjob : job = r.job)
  cases hmeets with
  | nextRound => cases hcode
  | round bound =>
    obtain ⟨_, _, _, hl, hscope⟩ := Yields.of_bind hr
    cases hl
    obtain ⟨v, hinner, -⟩ := hscope.of_inScope
    rw [bound] at hinner
    refine hforces "" x v τ ?_
    unfold Moment.runCode
    dsimp only
    rw [setLocals_append, bind_assoc]
    obtain ⟨_, _, _, hvars, hrest⟩ := Yields.of_bind hinner
    cases hvars
    exact hrest

/-- How a loop goes on behind a round. -/
lemma Turn.of_loop {output result : String}
    (h : Yields (r.loop env p output) p.state p.session result u τ) :
    ∃ f written s σ, Yields (r.play env p) p.state p.session (f, written) s σ ∧
      (∀ pos, f = .exitLoop pos → result = output ++ written ∧ u = s ∧ τ = σ) ∧
      ((∀ pos, f ≠ .exitLoop pos) →
        Yields (r.goOn env p (output ++ written)) s σ result u τ) := by
  unfold Turn.loop Render.loop at h
  obtain ⟨l, _, _, hl, h⟩ := h.of_bind
  obtain ⟨⟨f, written⟩, s, σ, hround, hrest⟩ := h.of_bind
  refine ⟨f, written, s, σ, hl.bind hround, ?_, fun hstays => ?_⟩
  · rintro pos rfl
    exact hrest.of_pure
  · cases f with
    | exitLoop pos => exact absurd rfl (hstays pos)
    | normal | nextItem pos => exact hrest

/-- What the control at `m` does to the round that begins at `p`: the round ends with it, and with
the round the loop, or the loop goes on with its next item. -/
structure Controls (env : Env) (f : Flow) (r : Turn) (p m : Moment) : Prop where
  inRound : InRound env r p m
  ends : ∀ x u τ, Yields (r.play env p) p.state p.session x u τ → x.1 = f
  exits : ∀ pos, f = .exitLoop pos → ∀ output result u τ,
    Yields (r.loop env p output) p.state p.session result u τ →
      ∃ written, Yields (r.play env p) p.state p.session (f, written) u τ ∧
        result = output ++ written
  advances : ∀ pos, f = .nextItem pos → ∀ output result u τ,
    Yields (r.loop env p output) p.state p.session result u τ →
      ∃ written s σ, Yields (r.play env p) p.state p.session (f, written) s σ ∧
        Yields (r.goOn env p (output ++ written)) s σ result u τ

lemma Moment.StandsAt.ne_normal (h : m.StandsAt f) : f ≠ .normal := by
  rintro rfl
  obtain ⟨_, _, -, hi⟩ := h
  cases hi

lemma Moment.StandsAt.loose (h : m.StandsAt f) : m.Loose := by
  obtain ⟨i, more, hjob, hi⟩ := h
  refine ⟨i :: more, by rw [hjob]; rfl, fun hconfined => ?_⟩
  obtain ⟨hi', -⟩ := Bool.and_eq_true_iff.mp hconfined
  cases f with
  | normal => cases hi
  | exitLoop pos | nextItem pos =>
    cases hi
    cases hi'

theorem InRound.controls (h : InRound env r p m) (hm : m.StandsAt f) : Controls env f r p m := by
  have hends : ∀ x u τ, Yields (r.play env p) p.state p.session x u τ → x.1 = f :=
    fun x u τ hr => h.play_eq hm.ne_normal hm.forces hr
  refine ⟨h, hends, fun pos hf output result u τ hr => ?_, fun pos hf output result u τ hr => ?_⟩
  · obtain ⟨f', written, s, σ, hplay, hexit, -⟩ := Turn.of_loop hr
    obtain rfl := hends _ _ _ hplay
    obtain ⟨rfl, rfl, rfl⟩ := hexit pos hf
    exact ⟨written, hplay, rfl⟩
  · obtain ⟨f', written, s, σ, hplay, -, hstays⟩ := Turn.of_loop hr
    obtain rfl := hends _ _ _ hplay
    exact ⟨written, s, σ, hplay, hstays fun _ hexit => nomatch hf.symm.trans hexit⟩

/-! ### Where a round ends early -/

/-- Storing the variables of a scope leads to the code in it. -/
lemma stays_entering {vars : List (String × Value)} {code : List Instr}
    (h : Yields (setLocals vars) s σ () u τ) :
    Relation.ReflTransGen (Stays env) ⟨n, t, .entering vars code, s, σ⟩
      ⟨n, t, .code code, u, τ⟩ := by
  induction vars generalizing s σ with
  | nil =>
    cases h
    exact .single ⟨.entered, rfl, rfl, rfl⟩
  | cons v more ih =>
    obtain ⟨_, s₁, σ₁, hv, hmore⟩ := Yields.of_bind h
    exact .head ⟨.entering hv, rfl, rfl, rfl⟩ (ih hmore)

/-- A loop that has items ends normally, whatever its body comes to. -/
lemma Yields.of_forEach {binding : Binding} {iterable : Expr} {body otherwise : List Instr}
    {pos : Position} {v item : Value} {items : List Value} {s₁ : State} {σ₁ : Session}
    {x : Flow × String} (heval : Yields (eval env (callsAt env n) t pos iterable) s σ v s₁ σ₁)
    (hitems : loopItems binding v = .ok (item :: items))
    (hr : Yields (exec env (callsAt env n) t (.forEach binding iterable body otherwise pos)) s σ x
      u τ) : x.1 = .normal := by
  rw [exec] at hr
  obtain ⟨v', s₁', σ₁', heval', hrest⟩ := hr.of_bind
  obtain ⟨rfl, rfl, rfl⟩ := heval'.unique heval
  rw [hitems] at hrest
  change Yields (loop binding pos (execAll env (callsAt env n) t "" body) (item :: items).length 0
    "" (item :: items) >>= fun output => pure (.normal, output)) s₁' σ₁' x u τ at hrest
  obtain ⟨_, _, _, -, hpure⟩ := hrest.of_bind
  obtain ⟨rfl, -, -⟩ := hpure.of_pure
  rfl

mutual

/-- Code that does not end normally has come to a control of its own. -/
theorem exists_standsAt_of_exec (hc : c.looped) (ht : c.Fits t) (i : Instr)
    (hi : c.Allows (i.confined true)) (more : List Instr) {s u : State} {σ τ : Session}
    (hs : c.Holds s σ) {x : Flow × String}
    (hr : Yields (exec env (callsAt env n) t i) s σ x u τ) (hx : x.1 ≠ .normal) :
    ∃ m, Relation.ReflTransGen (Stays env) ⟨n, t, .code (i :: more), s, σ⟩ m ∧
      m.StandsAt x.1 := by
  have hk : c.Serves (callsAt env n) := serves_callsAt c n
  have hplain : ¬ i.confined false = true := fun hout =>
    hx (((upholds_exec hk ht i fun _ => hout).of_yields hs hr).1 hc rfl)
  cases i with
  | exitLoop pos | nextItem pos =>
    rw [exec] at hr
    obtain ⟨rfl, -, -⟩ := hr.of_pure
    exact ⟨_, .refl, _, _, rfl, rfl⟩
  | branch condition body otherwise pos =>
    obtain ⟨hbody, hother⟩ := allows_and.mp hi
    rw [exec] at hr
    obtain ⟨v, s₁, σ₁, heval, hrest⟩ := hr.of_bind
    obtain ⟨-, hs₁⟩ := (upholds_eval hk ht _ _).of_yields hs heval
    have hchosen : ∃ m, Relation.ReflTransGen (Stays env)
        ⟨n, t, .code (if v.isTruthy then body else otherwise), s₁, σ₁⟩ m ∧ m.StandsAt x.1 := by
      split at hrest <;> rename_i hv
      · rw [if_pos hv]
        exact exists_standsAt_of_execAll hc ht body hbody hs₁ hrest hx
      · rw [if_neg hv]
        exact exists_standsAt_of_execAll hc ht otherwise hother hs₁ hrest hx
    obtain ⟨m, hpath, hm⟩ := hchosen
    exact ⟨m, .head ⟨.branch heval, rfl, rfl, rfl⟩ hpath, hm⟩
  | forEach binding iterable body otherwise pos =>
    obtain ⟨hbody, hother⟩ := allows_and.mp hi
    have hloop := hr
    rw [exec] at hr
    obtain ⟨v, s₁, σ₁, heval, hrest⟩ := hr.of_bind
    obtain ⟨-, hs₁⟩ := (upholds_eval hk ht _ _).of_yields hs heval
    cases hitems : loopItems binding v with
    | error fault =>
      rw [hitems] at hrest
      cases hrest
    | ok items =>
      rw [hitems] at hrest
      cases items with
      | nil =>
        obtain ⟨m, hpath, hm⟩ := exists_standsAt_of_execAll hc ht otherwise hother hs₁ hrest hx
        exact ⟨m, .head ⟨.otherwise heval hitems, rfl, rfl, rfl⟩ hpath, hm⟩
      | cons item items => exact absurd (Yields.of_forEach heval hitems hloop) hx
  | «scoped» bindings body pos =>
    rw [exec] at hr
    obtain ⟨vars, s₁, σ₁, hvars, hrest⟩ := hr.of_bind
    obtain ⟨hvalues, hs₁⟩ := (upholds_evalBindings hk ht _ _).of_yields hs hvars
    obtain ⟨l, _, _, hl, hscope⟩ := hrest.of_bind
    cases hl
    obtain ⟨v, hinner, -⟩ := hscope.of_inScope
    obtain ⟨_, s₂, σ₂, hstore, hcode⟩ := hinner.of_bind
    obtain ⟨-, hs₂⟩ := (upholds_setLocals hvalues).of_yields (hs₁.opened _) hstore
    obtain ⟨m, hpath, hm⟩ := exists_standsAt_of_execAll hc ht body hi hs₂ hcode hx
    exact ⟨m, .head ⟨.scoped hvars, rfl, rfl, rfl⟩ ((stays_entering hstore).trans hpath), hm⟩
  | autoescape enabled body =>
    rw [exec] at hr
    obtain ⟨_, _, _, hget, hrest⟩ := hr.of_bind
    cases hget
    obtain ⟨_, _, _, hmodify, hrest⟩ := hrest.of_bind
    cases hmodify
    obtain ⟨r', v, υ, hbody, hrest⟩ := hrest.of_bind
    obtain ⟨_, _, _, -, hpure⟩ := hrest.of_bind
    obtain ⟨rfl, -, -⟩ := hpure.of_pure
    have hs' : c.Holds { s with autoescape := enabled } σ := { hs with }
    obtain ⟨m, hpath, hm⟩ := exists_standsAt_of_execAll hc ht body hi hs' hbody hx
    exact ⟨m, .head ⟨.autoescape, rfl, rfl, rfl⟩ hpath, hm⟩
  | filtered filters body pos =>
    rw [exec] at hr
    obtain ⟨⟨flow, output⟩, v, υ, hbody, hrest⟩ := hr.of_bind
    obtain ⟨_, _, _, -, hrest⟩ := hrest.of_bind
    obtain ⟨_, _, _, -, hpure⟩ := hrest.of_bind
    obtain ⟨rfl, -, -⟩ := hpure.of_pure
    obtain ⟨m, hpath, hm⟩ := exists_standsAt_of_execAll hc ht body hi hs hbody hx
    exact ⟨m, .head ⟨.filtered, rfl, rfl, rfl⟩ hpath, hm⟩
  | text | print | callBlock | assign | block | including | importing =>
    exact absurd (hi hc) hplain

theorem exists_standsAt_of_execAll (hc : c.looped) (ht : c.Fits t)
    (code : List Instr) (hcode : c.Allows (confinedAll true code)) {s u : State} {σ τ : Session}
    (hs : c.Holds s σ) {output : String} {x : Flow × String}
    (hr : Yields (execAll env (callsAt env n) t output code) s σ x u τ) (hx : x.1 ≠ .normal) :
    ∃ m, Relation.ReflTransGen (Stays env) ⟨n, t, .code code, s, σ⟩ m ∧ m.StandsAt x.1 := by
  cases code with
  | nil =>
    rw [execAll] at hr
    obtain ⟨rfl, -, -⟩ := hr.of_pure
    exact absurd rfl hx
  | cons i more =>
    obtain ⟨hi, hmore⟩ := allows_and.mp hcode
    rw [execAll] at hr
    obtain ⟨⟨flow, written⟩, s₁, σ₁, hfirst, hrest⟩ := hr.of_bind
    obtain ⟨-, hs₁⟩ := (upholds_exec (serves_callsAt c n) ht i hi).of_yields hs hfirst
    cases flow with
    | normal =>
      obtain ⟨m, hpath, hm⟩ := exists_standsAt_of_execAll hc ht more hmore hs₁ hrest hx
      exact ⟨m, .head ⟨.pass hfirst, rfl, rfl, rfl⟩ hpath, hm⟩
    | exitLoop pos | nextItem pos =>
      obtain ⟨rfl, -, -⟩ := hrest.of_pure
      have hcontrol := exists_standsAt_of_exec hc ht i hi more hs hfirst nofun
      exact hcontrol

end

/-- A round that does not end normally has come to a control in its body. -/
theorem exists_inRound (hc : c.looped) (hp : c.Keeps p) (hjob : p.job = r.job) {x : Flow × String}
    (hr : Yields (r.play env p) p.state p.session x u τ) (hx : x.1 ≠ .normal) :
    ∃ m, InRound env r p m ∧ m.StandsAt x.1 := by
  obtain ⟨n, t, job, s, σ⟩ := p
  cases (hjob : job = r.job)
  obtain ⟨_, _, _, hl, hscope⟩ := Yields.of_bind hr
  cases hl
  obtain ⟨v, hinner, -⟩ := hscope.of_inScope
  cases hbound : bindItem r.binding r.item with
  | error fault =>
    rw [hbound] at hinner
    cases hinner
  | ok vars =>
    rw [hbound] at hinner
    obtain ⟨_, _, _, hvars, hrest⟩ := Yields.of_bind hinner
    cases hvars
    obtain ⟨_, _, _, hfirst, hrest⟩ := Yields.of_bind hrest
    obtain ⟨_, s₁, σ₁, hlast, hcode⟩ := Yields.of_bind hrest
    have hstore : Yields (setLocals (vars ++ [("loop", loopState r.number r.length)]))
        (s.opened s.here) σ () s₁ σ₁ := by
      rw [setLocals_append]
      exact hfirst.bind (hlast.bind rfl)
    obtain ⟨ht, ⟨hallowed, hvalues⟩, hs⟩ := hp.step (.round hbound)
    obtain ⟨-, hs₁⟩ := (upholds_setLocals hvalues).of_yields hs hstore
    obtain ⟨m, hpath, hm⟩ := exists_standsAt_of_execAll hc ht r.code hallowed hs₁ hcode hx
    exact ⟨m, ⟨rfl, _, .round hbound, rfl, (stays_entering hstore).trans hpath⟩, hm⟩

end Render

namespace Engine

open Render

variable {e : Engine} {t : Template} {σ : Session}

/-- Where the rendering of a template begins. -/
def firstMoment (e : Engine) (vars : Dict Value) (n : Nat) (t : Template) (σ : Session) : Moment :=
  ⟨n, t, .template, State.initial ⟨e, vars⟩ t, σ⟩

/-- All loop controls stand in loops; values may be any. -/
def looping (vars : Dict Value) (he : e.Offers Template.Confined) : Regime ⟨e, vars⟩ where
  value _ := True
  looped := True
  hereditary := {
    undefined := trivial
    null := trivial
    bool _ := trivial
    int _ := trivial
    float _ := trivial
    str _ := trivial
    list := by simp
    empty := trivial
    entries _ _ _ := trivial
    insert _ _ := trivial }
  safe _ := trivial
  root := trivial
  filter _ _ _ _ := trivial
  offers load path source t hload hsource ht _ := (he load path source t hload hsource ht).looped

/-- Where all loop controls stand in loops, no rendering finds one outside of a loop. Each one that
is reached ends or advances the innermost loop in whose body it stands; a round ends early only at
such a control, and no loop that has items lets anything of it through to the code around it. -/
theorem controls_of_confined (ht : t.Confined) (he : e.Offers Template.Confined)
    (hσ : σ.All Template.Confined) (vars : Dict Value) :
    (∀ keyword pos, (e.render t vars σ).1 ≠ .error (.render (.loopControl keyword pos))) ∧
    ∀ n m, Within ⟨e, vars⟩ (e.firstMoment vars n t σ) m →
      (∀ f, m.StandsAt f → ∃ r p, Within ⟨e, vars⟩ (e.firstMoment vars n t σ) p ∧
        Controls ⟨e, vars⟩ f r p m) ∧
      (∀ r : Turn, m.job = r.job → ∀ x u τ,
        Yields (r.play ⟨e, vars⟩ m) m.state m.session x u τ → x.1 ≠ .normal →
          ∃ q, InRound ⟨e, vars⟩ r m q ∧ q.StandsAt x.1) ∧
      ∀ binding iterable body otherwise pos v s₁ σ₁ item items x u τ,
        Yields (eval ⟨e, vars⟩ (callsAt ⟨e, vars⟩ m.fuel) m.template pos iterable) m.state m.session
          v s₁ σ₁ → loopItems binding v = .ok (item :: items) →
        Yields (exec ⟨e, vars⟩ (callsAt ⟨e, vars⟩ m.fuel) m.template
          (.forEach binding iterable body otherwise pos)) m.state m.session x u τ →
        x.1 = .normal := by
  let c := looping vars he
  have hkeeps : ∀ n, c.Keeps (e.firstMoment vars n t σ) :=
    Regime.keeps_initial (fun _ => ht.looped) fun x hx _ => (hσ x hx).looped
  refine ⟨fun keyword pos => ?_, fun n m hm => ⟨fun f hf => ?_, fun r hjob x u τ hr hx => ?_, ?_⟩⟩
  · have hk := Regime.serves_callsAt c (fuelFor e.config.maxDepth)
    have hinitial : c.Holds (State.initial ⟨e, vars⟩ t) σ := (hkeeps 0).holds
    unfold Engine.render run
    obtain ⟨a, s, τ, hr, -⟩ | ⟨stop, τ, hr, hmild⟩ :=
      (hk.render (fun _ => ht.looped) hinitial).cases
    · rw [hr]
      nofun
    · rw [hr]
      cases stop with
      | outOfFuel => nofun
      | error err =>
        intro hstray
        cases hstray
        exact hmild trivial keyword pos rfl
  · have hstart : ¬ (e.firstMoment vars n t σ).Loose := by rintro ⟨_, ⟨⟩, _⟩
    obtain ⟨r, p, hp, hround⟩ := hm.exists_round trivial (hkeeps n) hstart hf.loose
    exact ⟨r, p, hp, hround.controls hf⟩
  · exact exists_inRound trivial ((hkeeps n).within hm) hjob hr hx
  · intro binding iterable body otherwise pos v s₁ σ₁ item items x u τ heval hitems hr
    exact heval.of_forEach hitems hr

/-- A loop that ends in its first round. -/
def breaking : Template where
  name := none
  dialect := .jinja
  body := [.forEach (.single "x") (.list [.lit (.int 1), .lit (.int 2)])
    [.exitLoop .start, .including (.lit (.str "i")) .start] [] .start]
  macros := []
  blocks := []
  parent := none

lemma confined_breaking : breaking.Confined :=
  ⟨Registry.builtin, none, .jinja,
    [.forEach (.single "x") (.list [.lit (.int 1), .lit (.int 2)])
      [.exitLoop .start, .including (.lit (.str "i")) .start] none .start], rfl, rfl⟩

/-- An engine that has a text with a loop for each path. -/
def loopingEngine : Engine where
  config := { dialect := some .jinja }
  registry := Registry.builtin
  loader := some fun _ => .ok "{% for x in y %}{% if x %}{% continue %}{% endif %}{% endfor %}"

theorem controls_of_confined_breaking :
    (∀ keyword pos, (loopingEngine.render breaking [] {}).1 ≠
      .error (.render (.loopControl keyword pos))) ∧
    ∃ m r p, m.StandsAt (.exitLoop .start) ∧
      Within ⟨loopingEngine, []⟩ (loopingEngine.firstMoment [] 1 breaking {}) p ∧
      Controls ⟨loopingEngine, []⟩ (.exitLoop .start) r p m := by
  let env : Env := ⟨loopingEngine, []⟩
  have hoffers : loopingEngine.Offers Template.Confined := by
    rintro _ path source t ⟨⟩ ⟨⟩ ht
    refine Template.confined_of_ofSource ht fun nodes dialect hnodes => ?_
    have htree : ((Node.ofSource (some .jinja)
        "{% for x in y %}{% if x %}{% continue %}{% endif %}{% endfor %}").toOption.map
          fun r => Node.confinedAll false r.1) = some true := by decide +kernel
    change Node.ofSource (some .jinja) _ = _ at hnodes
    rw [hnodes] at htree
    exact Option.some.inj htree
  have hkept : Session.All Template.Confined {} := List.forall_mem_nil _
  obtain ⟨hrender, hmoments⟩ := controls_of_confined confined_breaking hoffers hkept []
  have heval : Yields (eval env (callsAt env 1) breaking .start
      (.list [.lit (.int 1), .lit (.int 2)])) (State.initial env breaking) {}
      (.list [.int 1, .int 2]) (State.initial env breaking) {} := rfl
  let vars : List (String × Value) := [("x", .int 1)] ++ [("loop", loopState 0 2)]
  have hstore : ∃ s, Yields (setLocals vars) ((State.initial env breaking).opened .root) {} () s
      {} := ⟨_, rfl⟩
  obtain ⟨s, hstore⟩ := hstore
  have hround : Within env (loopingEngine.firstMoment [] 1 breaking {})
      ⟨1, breaking, .entering vars [.exitLoop .start, .including (.lit (.str "i")) .start],
        (State.initial env breaking).opened .root, {}⟩ :=
    .tail (.tail (.single (.start rfl)) (.rounds heval rfl)) (.round rfl)
  have hcode := hround.trans
    (Relation.ReflTransGen.mono (fun _ _ h => h.meets) _ _ (stays_entering hstore))
  have hstands : Moment.StandsAt ⟨1, breaking, .code [.exitLoop .start,
      .including (.lit (.str "i")) .start], s, {}⟩ (.exitLoop .start) := ⟨_, _, rfl, rfl⟩
  obtain ⟨r, p, hp, hcontrols⟩ := (hmoments 1 _ hcode).1 _ hstands
  exact ⟨hrender, _, r, p, hstands, hp, hcontrols⟩

end Engine

end Stencil
