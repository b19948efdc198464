import Stencil.Proofs.Encapsulation
import Stencil.Proofs.Moments

/-! The arena of scopes. Scopes are closed in the order opposite to that in which they are opened,
so that a link that a call block keeps goes to the scope of its call site for as long as the call
lasts. -/
namespace Stencil.Render

variable {env : Env} {m m' p q : Moment} {s u : State} {c : Caller}

/-! ### One step -/

/-- The first moment is at a call block, and the call begins at the second one. -/
def Hands (m m' : Moment) (c : Caller) : Prop :=
  ∃ callee args pos more, m.job = .code (.callBlock callee args c.body pos :: more) ∧
    c = ⟨c.body, m.state.here, m.template, m.state.imports⟩ ∧
    m' = ⟨m.fuel, m.template, .calling callee args (some c) pos, m.state, m.session⟩

/-- The scopes are those of the other state and a new one on top, which runs. -/
def Opens (parent : Link) (s u : State) : Prop :=
  u.scopes = s.scopes.push ⟨[], parent⟩ ∧ u.current = some s.scopes.size

/-- What a step does to the scopes and to the call blocks that wait. -/
inductive Shift (m m' : Moment) : Prop where
  | stays (scopes : ScopesKept m.state m'.state) (callers : m'.state.callers = m.state.callers)
      (placing : ∀ c, m'.job ≠ .placing c)
      (handed : ∀ c ∈ m'.job.caller?, m'.state.scopes = m.state.scopes ∧
        (c ∈ m.job.caller? ∨ Hands m m' c))
  | nests (scopes : Opens m.state.here m.state m'.state)
      (callers : m'.state.callers = m.state.callers) (placing : ∀ c, m'.job ≠ .placing c)
      (handed : m'.job.caller? = none)
  | isolates (scopes : Opens .isolated m.state m'.state)
      (callers : m'.state.callers = m.job.caller?.toList ++ m.state.callers)
      (placing : ∀ c, m'.job ≠ .placing c) (handed : m'.job.caller? = none)
  | resumes (c : Caller) (scopes : Opens c.scope m.state m'.state)
      (callers : m.state.callers = c :: m'.state.callers) (placing : m'.job = .placing c)

lemma Written.callers_eq (h : Written False s u) : u.callers = s.callers := by
  obtain ⟨⟨_, _, _, rfl, -⟩, -⟩ := h
  rfl

lemma Restored.opens (h : Restored False s u) : Opens s.here s (u.opened u.here) := by
  obtain ⟨_, rfl, -⟩ := h
  exact ⟨rfl, rfl⟩

lemma Shift.of_written {n n' : Nat} {t t' : Template} {j j' : Job} {σ σ' : Session}
    (h : Written False s u) (placing : ∀ c, j' ≠ .placing c := by nofun)
    (handed : j'.caller? = none := by rfl) : Shift ⟨n, t, j, s, σ⟩ ⟨n', t', j', u, σ'⟩ :=
  .stays h.2 h.callers_eq placing fun c hc => by rw [handed] at hc; cases hc

lemma Shift.refl {n n' : Nat} {t t' : Template} {j j' : Job} {σ σ' : Session}
    (placing : ∀ c, j' ≠ .placing c := by nofun) (handed : j'.caller? = none := by rfl) :
    Shift ⟨n, t, j, s, σ⟩ ⟨n', t', j', s, σ'⟩ :=
  .of_written Restored.refl.written placing handed

section Runs

variable {n : Nat} {t : Template} {σ σ' : Session} {α : Type}

lemma Yields.restored_eval {pos : Position} {e : Expr} {v : Value}
    (h : Yields (eval env (callsAt env n) t pos e) s σ v u σ') : Restored False s u :=
  Render.restored_eval (tidy_callsAt env n) calm_false pos e Restored.refl h

lemma Yields.restored_evalAll {pos : Position} {es : List Expr} {vs : List Value}
    (h : Yields (evalAll env (callsAt env n) t pos es) s σ vs u σ') : Restored False s u :=
  Render.restored_evalAll (tidy_callsAt env n) calm_false pos es Restored.refl h

lemma Yields.written_exec {i : Instr} {r : Flow × String}
    (h : Yields (exec env (callsAt env n) t i) s σ r u σ') : Written False s u :=
  Render.written_exec (tidy_callsAt env n) calm_false i False.elim Restored.refl.written h

/-- Fetching a template changes neither the scopes nor the call blocks that wait. -/
lemma Yields.entered {path : Expr} {pos : Position} {name : String} {s₁ : State} {σ₁ : Session}
    {entered : Template} (heval : Yields (evalPath env (callsAt env n) t path pos) s σ name s₁ σ₁)
    (henter : Yields (enter env name pos) s₁ σ₁ entered u σ') :
    ∃ imports active, u = { s with imports, active } := by
  obtain ⟨imports, rfl, -⟩ :=
    restored_evalPath (tidy_callsAt env n) calm_false path pos Restored.refl heval
  have hleads : Leads (Eq { s with imports }) (enter env name pos)
      fun u => ∃ imports active, u = { s with imports, active } := by
    refine leads_enter ?_
    rintro _ rfl
    exact ⟨imports, _, rfl⟩
  exact hleads rfl henter

/-- A round of a loop leaves nothing behind. -/
lemma Yields.restored_playRound {binding : Binding} {pos : Position} {code : List Instr}
    {length i : Nat} {item : Value} {r : Flow × String}
    (h : Yields (playRound env (callsAt env n) t binding pos code length i item) s σ r u σ') :
    Restored False s u := by
  refine Leads.bind leads_here (fun l => Leads.inScope (fun s' _ => ?_) l) Restored.refl h
  refine Leads.bind (leads_typed pos _) fun vars => Leads.bind (written_setLocals vars) fun _ => ?_
  refine Leads.bind (written_setLocal "loop" _) fun _ => ?_
  exact Render.written_execAll (tidy_callsAt env n) calm_false "" code False.elim

end Runs

/-- Every step keeps the scopes or opens one: in the running scope, alone, or in the scope of the
call block whose body is placed. -/
theorem Meets.shift (h : Meets env m m') : Shift m m' := by
  cases h with
  | start | settle | skip | parentPath | operands | block | importing | filtered | entered | parts
  | first | args | base | memberArgs | default | body | placed | path | inner | skipInner =>
    exact .refl
  | extend | autoescape =>
    exact .stays ScopesKept.refl rfl nofun nofun
  | call | callMember => exact .refl
  | settled _ run | pass run => exact .of_written run.written_exec
  | branch run | otherwise run | rounds run | next run | both run | either run | chosen run
  | unchosen run => exact .of_written run.restored_eval.written
  | nextRound run => exact .of_written run.restored_playRound.written
  | nextInner run =>
    exact .of_written ((tidy_callsAt env _).load _ _ _ Restored.refl run).written
  | filterArgs run filters =>
    have hbody := written_execAll (tidy_callsAt env _) calm_false "" _ False.elim
      Restored.refl.written run
    have hfilters := restored_applyFilters (tidy_callsAt env _) calm_false _ _ _ Restored.refl
      filters
    exact .of_written (hbody.trans hfilters.written)
  | entering run => exact .of_written (written_setLocal _ _ Restored.refl.written run)
  | bound run =>
    exact .of_written (written_bindParams (tidy_callsAt env _) calm_false _ _ _
      Restored.refl.written run)
  | ascend _ heval henter | loaded heval henter =>
    obtain ⟨_, _, rfl⟩ := heval.entered henter
    exact .stays ScopesKept.refl rfl nofun nofun
  | including heval henter =>
    obtain ⟨_, _, rfl⟩ := heval.entered henter
    exact .nests ⟨rfl, rfl⟩ rfl nofun rfl
  | round => exact .nests ⟨rfl, rfl⟩ rfl nofun rfl
  | «scoped» run =>
    have h := restored_evalBindings (tidy_callsAt env _) calm_false _ _ Restored.refl run
    exact .nests h.opens (by exact h.written.callers_eq) nofun rfl
  | callBlock =>
    refine .stays ScopesKept.refl rfl nofun ?_
    rintro _ ⟨⟩
    exact ⟨rfl, .inr ⟨_, _, _, _, rfl, rfl, rfl⟩⟩
  | named _ run | member _ _ run =>
    obtain ⟨_, rfl, -⟩ := run.restored_evalAll
    exact .stays ScopesKept.refl rfl nofun fun c hc => ⟨rfl, .inl hc⟩
  | invoke => exact .isolates ⟨rfl, rfl⟩ rfl nofun rfl
  | caller _ run innermost =>
    obtain ⟨_, rfl, -⟩ := run.restored_evalAll
    exact .resumes _ ⟨rfl, rfl⟩ innermost rfl

/-! ### From a moment to one within it -/

/-- The scopes of the one state are still there in the other, and all but the last one of them hold
the same variables. -/
def Extends (s u : State) : Prop :=
  s.scopes.size ≤ u.scopes.size ∧
  (∀ j, j + 1 < s.scopes.size → u.scopes[j]? = s.scopes[j]?) ∧
  ∀ j < s.scopes.size, (u.scopes[j]?).map Scope.parent = (s.scopes[j]?).map Scope.parent

namespace Extends

lemma refl : Extends s s := ⟨Nat.le_refl _, fun _ _ => rfl, fun _ _ => rfl⟩

lemma trans {w : State} (h : Extends s u) (h' : Extends u w) : Extends s w :=
  ⟨h.1.trans h'.1,
    fun j hj => (h'.2.1 j (hj.trans_le h.1)).trans (h.2.1 j hj),
    fun j hj => (h'.2.2 j (hj.trans_le h.1)).trans (h.2.2 j hj)⟩

end Extends

lemma Opens.extends {parent : Link} (h : Opens parent s u) : Extends s u := by
  have hget : ∀ j < s.scopes.size, u.scopes[j]? = s.scopes[j]? := fun j hj => by
    rw [h.1, Array.getElem?_push_lt hj, Array.getElem?_eq_getElem hj]
  refine ⟨?_, fun j hj => hget j (by omega), fun j hj => by rw [hget j hj]⟩
  rw [h.1, Array.size_push]
  exact Nat.le_succ _

/-- The running scope is the last one, and there is one if there are any. -/
def Topmost (s : State) : Prop := s.here.height = s.scopes.size

lemma Topmost.of_current (h : Topmost s) {id : Nat} (hid : s.current = some id) :
    s.scopes.size = id + 1 := by
  rw [← h, State.here, hid]
  rfl

lemma Topmost.of_idle (h : Topmost s) (hnone : s.current = none) : s.scopes = #[] := by
  rw [Topmost, State.here, hnone] at h
  exact Array.eq_empty_of_size_eq_zero h.symm

lemma Opens.topmost {parent : Link} (h : Opens parent s u) : Topmost u := by
  rw [Topmost, State.here, h.2, h.1, Array.size_push]
  rfl

lemma ScopesKept.topmost (hs : Topmost s) (h : ScopesKept s u) : Topmost u := by
  cases hcurrent : s.current with
  | some id =>
    obtain ⟨hid, hsize, -⟩ := h.1 id hcurrent
    rw [Topmost, hsize, State.here, hid, hs.of_current hcurrent]
    rfl
  | none =>
    obtain ⟨hnone, hscopes⟩ | ⟨vars, hid, hscopes⟩ := h.2 hcurrent
    · rw [Topmost, hscopes, State.here, hnone, ← hs, State.here, hcurrent]
    · rw [Topmost, hscopes, State.here, hid, Array.size_push]
      rfl

lemma ScopesKept.extends (hs : Topmost s) (h : ScopesKept s u) : Extends s u := by
  cases hcurrent : s.current with
  | some id =>
    have hsize := hs.of_current hcurrent
    obtain ⟨-, hsize', hget, hparents⟩ := h.1 id hcurrent
    exact ⟨hsize'.ge, fun j hj => hget j (by omega), fun j _ => hparents j⟩
  | none =>
    have hsize : s.scopes.size = 0 := congrArg Array.size (hs.of_idle hcurrent)
    exact ⟨by omega, fun j hj => by omega, fun j hj => by omega⟩

lemma Shift.topmost (hm : Topmost m.state) (h : Shift m m') : Topmost m'.state := by
  cases h with
  | stays scopes => exact scopes.topmost hm
  | nests scopes | isolates scopes | resumes _ scopes => exact scopes.topmost

lemma Shift.extends (hm : Topmost m.state) (h : Shift m m') : Extends m.state m'.state := by
  cases h with
  | stays scopes => exact scopes.extends hm
  | nests scopes | isolates scopes | resumes _ scopes => exact scopes.extends

lemma Within.extends (hm : Topmost m.state) (h : Within env m m') :
    Topmost m'.state ∧ Extends m.state m'.state := by
  induction h with
  | refl => exact ⟨hm, .refl⟩
  | tail _ hnext ih => exact ⟨hnext.shift.topmost ih.1, ih.2.trans (hnext.shift.extends ih.1)⟩

lemma Reached.topmost (h : Reached env m) : Topmost m.state := by
  obtain ⟨n, t, σ, hwithin⟩ := h
  have hfirst : Topmost (State.initial env t) := rfl
  exact (hwithin.extends hfirst).1

lemma Reached.within (h : Reached env m) (h' : Within env m m') : Reached env m' := by
  obtain ⟨n, t, σ, hwithin⟩ := h
  exact ⟨n, t, σ, hwithin.trans h'⟩

/-! ### Call sites -/

/-- At `p` a call block begins that hands over the caller, and its call lasts until `m`. -/
def Site (env : Env) (p m : Moment) (c : Caller) : Prop :=
  Reached env p ∧ ∃ q, Hands p q c ∧ Within env q m

namespace Site

lemma scope_eq (h : Site env p m c) : c.scope = p.state.here := by
  obtain ⟨-, -, ⟨-, -, -, -, -, hc, -⟩, -⟩ := h
  rw [hc]

lemma height_eq (h : Site env p m c) : c.scope.height = p.state.scopes.size := by
  rw [h.scope_eq]
  exact h.1.topmost

lemma next (h : Site env p m c) (h' : Within env m m') : Site env p m' c := by
  obtain ⟨hp, q, hands, hwithin⟩ := h
  exact ⟨hp, q, hands, hwithin.trans h'⟩

end Site

/-- All scopes of the other state are there, unchanged, and others on top of them. -/
def Above (s u : State) : Prop :=
  s.scopes.size < u.scopes.size ∧ ∀ j < s.scopes.size, u.scopes[j]? = s.scopes[j]?

lemma Above.extends {w : State} (h : Above s u) (h' : Extends u w) : Above s w :=
  ⟨h.1.trans_le h'.1, fun j hj => (h'.2.1 j (by have := h.1; omega)).trans (h.2 j hj)⟩

lemma Opens.above {parent : Link} (h : Opens parent s u) : Above s u := by
  refine ⟨?_, fun j hj => ?_⟩
  · rw [h.1, Array.size_push]
    exact Nat.lt_succ_self _
  · rw [h.1, Array.getElem?_push_lt hj, Array.getElem?_eq_getElem hj]

/-- The links of the scopes go downwards. -/
def Descending (s : State) : Prop :=
  ∀ (id : Nat) (c : Scope), s.scopes[id]? = some c → c.parent.height ≤ id

lemma Opens.descending {parent : Link} (hs : Descending s) (h : Opens parent s u)
    (hparent : parent.height ≤ s.scopes.size) : Descending u := by
  intro id c hc
  rw [h.1, Array.getElem?_push] at hc
  split at hc
  · cases hc
    subst id
    exact hparent
  · exact hs id c hc

lemma ScopesKept.descending (hs : Descending s) (h : ScopesKept s u) : Descending u := by
  cases hcurrent : s.current with
  | some id =>
    obtain ⟨-, -, -, hparents⟩ := h.1 id hcurrent
    intro j c hc
    have hparent := hparents j
    rw [hc] at hparent
    obtain ⟨c', hc', hsame⟩ := Option.map_eq_some_iff.mp hparent.symm
    rw [← hsame]
    exact hs j c' hc'
  | none =>
    obtain ⟨-, hscopes⟩ | ⟨vars, -, hscopes⟩ := h.2 hcurrent
    · rw [Descending, hscopes]
      exact hs
    · intro j c hc
      rw [hscopes, Array.getElem?_push] at hc
      split at hc
      · cases hc
        exact Nat.zero_le _
      · exact hs j c hc

/-- What every step keeps: the links of scopes go downwards, and the scopes of the call sites stay
below those of the macros that are called. -/
structure Anchored (env : Env) (m : Moment) : Prop where
  descending : Descending m.state
  waiting : ∀ c ∈ m.state.callers, ∃ p, Site env p m c ∧ Above p.state m.state
  handed : ∀ c ∈ m.job.caller?, ∃ p, Site env p m c ∧ m.state.scopes = p.state.scopes
  placing : ∀ c, m.job = .placing c → ∃ p id, Site env p m c ∧ Above p.state m.state ∧
    m.state.current = some id ∧ m.state.scopes[id]? = some ⟨[], c.scope⟩

theorem Anchored.step (hm : Reached env m) (h : Anchored env m) (hnext : Meets env m m') :
    Anchored env m' := by
  have hone : Within env m m' := .single hnext
  have hextends := hnext.shift.extends hm.topmost
  have hwaiting : ∀ c ∈ m.state.callers, ∃ p, Site env p m' c ∧ Above p.state m'.state := by
    intro c hc
    obtain ⟨p, hsite, habove⟩ := h.waiting c hc
    exact ⟨p, hsite.next hone, habove.extends hextends⟩
  cases hnext.shift with
  | stays scopes callers placing handed =>
    refine ⟨scopes.descending h.descending, by rwa [callers], fun c hc => ?_,
      fun c hc => absurd hc (placing c)⟩
    obtain ⟨hsame, hold | hgives⟩ := handed c hc
    · obtain ⟨p, hsite, hscopes⟩ := h.handed c hold
      exact ⟨p, hsite.next hone, hsame.trans hscopes⟩
    · exact ⟨m, ⟨hm, m', hgives, .refl⟩, hsame⟩
  | nests scopes callers placing handed =>
    refine ⟨scopes.descending h.descending (Nat.le_of_eq hm.topmost), by rwa [callers], ?_,
      fun c hc => absurd hc (placing c)⟩
    simp [handed]
  | isolates scopes callers placing handed =>
    refine ⟨scopes.descending h.descending (Nat.zero_le _), fun c hc => ?_, ?_,
      fun c hc => absurd hc (placing c)⟩
    · rw [callers, List.mem_append, Option.mem_toList] at hc
      obtain hc | hc := hc
      · obtain ⟨p, hsite, hscopes⟩ := h.handed c hc
        refine ⟨p, hsite.next hone, ?_⟩
        rw [Above, ← hscopes]
        exact scopes.above
      · exact hwaiting c hc
    · simp [handed]
  | resumes c scopes callers placing =>
    obtain ⟨p, hsite, habove⟩ := h.waiting c (by rw [callers]; exact List.mem_cons_self)
    have hparent : c.scope.height ≤ m.state.scopes.size := hsite.height_eq ▸ habove.1.le
    refine ⟨scopes.descending h.descending hparent, fun c' hc' => ?_, ?_, ?_⟩
    · exact hwaiting c' (by rw [callers]; exact List.mem_cons_of_mem _ hc')
    · simp [placing, Job.caller?]
    · intro c' hc'
      cases placing.symm.trans hc'
      refine ⟨p, _, hsite.next hone, habove.extends hextends, scopes.2, ?_⟩
      rw [scopes.1, Array.getElem?_push_size]

/-- Every moment of a run is anchored. -/
theorem Reached.anchored (h : Reached env m) : Anchored env m := by
  obtain ⟨n, t, σ, hwithin⟩ := h
  induction hwithin with
  | refl => exact ⟨nofun, nofun, nofun, fun _ hc => nomatch hc⟩
  | tail hbefore hnext ih => exact ih.step ⟨n, t, σ, hbefore⟩ hnext

/-! ### Looking for variables -/

/-- The variables that are seen from a link on, innermost first, and the link behind the last of
them. -/
inductive Sees (scopes : Array Scope) : Link → List (Dict Value) → Link → Prop where
  | root : Sees scopes .root [] .root
  | isolated : Sees scopes .isolated [] .isolated
  | scope {id : Nat} {c : Scope} {frames : List (Dict Value)} {last : Link}
      (found : scopes[id]? = some c) (outer : Sees scopes c.parent frames last) :
      Sees scopes (.scope id) (c.vars :: frames) last

/-- The value of a variable: the innermost one that is seen, or one of the caller of the engine if
the links end at the root. -/
def seen (root : Dict Value) (frames : List (Dict Value)) (last : Link) (name : String) : Value :=
  match frames.findSome? (Dict.get? · name) with
  | some value => value
  | none => if last = .root then (Dict.get? root name).getD .undefined else .undefined

variable {l last : Link} {frames : List (Dict Value)}

lemma exists_sees (hs : Descending s) (l : Link) (hl : l.height ≤ s.scopes.size) :
    ∃ frames last, Sees s.scopes l frames last := by
  induction hn : l.height using Nat.strong_induction_on generalizing l with
  | _ n ih =>
    cases l with
    | root => exact ⟨[], .root, .root⟩
    | isolated => exact ⟨[], .isolated, .isolated⟩
    | scope id =>
      have hid : id < s.scopes.size := hl
      have hparent := hs id _ (Array.getElem?_eq_getElem hid)
      obtain ⟨frames, last, houter⟩ := ih _ (by rw [← hn]; exact Nat.lt_succ_of_le hparent)
        s.scopes[id].parent (hparent.trans hid.le) rfl
      exact ⟨_, last, .scope (Array.getElem?_eq_getElem hid) houter⟩

namespace Sees

lemma last_eq {scopes : Array Scope} (h : Sees scopes l frames last) :
    last = .root ∨ last = .isolated := by
  induction h with
  | root => exact .inl rfl
  | isolated => exact .inr rfl
  | scope _ _ ih => exact ih

/-- The evaluator finds what is seen. -/
lemma lookupFrom_eq (hs : Descending s) (h : Sees s.scopes l frames last) (root : Dict Value)
    (name : String) : lookupFrom s.scopes root name l = seen root frames last name := by
  induction h with
  | root =>
    unfold lookupFrom
    rfl
  | isolated =>
    unfold lookupFrom
    rfl
  | @scope id c frames last found outer ih =>
    unfold lookupFrom
    simp only [found, hs id c found, if_true, ih, seen, List.findSome?_cons]
    cases Dict.get? c.vars name <;> rfl

lemma of_unchanged (hsame : ∀ j < s.scopes.size, u.scopes[j]? = s.scopes[j]?)
    (h : Sees s.scopes l frames last) : Sees u.scopes l frames last := by
  induction h with
  | root => exact .root
  | isolated => exact .isolated
  | @scope id c frames last found outer ih =>
    obtain ⟨hid, -⟩ := Array.getElem?_eq_some_iff.mp found
    exact .scope ((hsame id hid).trans found) ih

end Sees

/-- What is seen from a call site is seen as long as its scopes stay. -/
lemma Site.lookupFrom_eq (h : Site env p q c) (hm : Reached env m)
    (hsame : ∀ j < p.state.scopes.size, m.state.scopes[j]? = p.state.scopes[j]?)
    (root : Dict Value) (name : String) :
    lookupFrom m.state.scopes root name c.scope =
      lookupFrom p.state.scopes root name p.state.here := by
  obtain ⟨frames, last, hsees⟩ :=
    exists_sees h.1.anchored.descending p.state.here (Nat.le_of_eq h.1.topmost)
  rw [h.scope_eq, hsees.lookupFrom_eq h.1.anchored.descending,
    (hsees.of_unchanged hsame).lookupFrom_eq hm.anchored.descending]

/-- A link that the state keeps: to the running scope, from a scope or of a call block. -/
inductive State.Keeps (s : State) : Link → Prop where
  | here : s.Keeps s.here
  | parent {id : Nat} {c : Scope} (found : s.scopes[id]? = some c) : s.Keeps c.parent
  | caller {c : Caller} (waits : c ∈ s.callers) : s.Keeps c.scope

/-- The scopes of a moment are in order, and each link into them still goes where it went. -/
structure Moment.InOrder (env : Env) (m : Moment) : Prop where
  current_none : m.state.current = none ↔ m.state.scopes = #[]
  current_last : ∀ id, m.state.current = some id → m.state.scopes.size = id + 1
  parent_lt : ∀ (id : Nat) (c : Scope) (j : Nat),
    m.state.scopes[id]? = some c → c.parent = .scope j → j < id
  /-- Each call block that waits has the root or a scope of the arena, that of its call site. -/
  callers : ∀ c ∈ m.state.callers,
    (c.scope = .root ∨ ∃ id < m.state.scopes.size, c.scope = .scope id) ∧
    ∃ p, Site env p m c ∧ ∀ j < p.state.scopes.size, m.state.scopes[j]? = p.state.scopes[j]?
  /-- Links lead from scope to scope to the root or to the end of an isolated scope, and variables
  are looked for in these scopes. -/
  lookups : ∀ l, m.state.Keeps l → ∃ frames last, Sees m.state.scopes l frames last ∧
    (last = .root ∨ last = .isolated) ∧
    ∀ name, lookupFrom m.state.scopes env.root name l = seen env.root frames last name
  /-- The body of a call block sees the variables of its call site as long as it runs, and no
  others when it begins. -/
  bodies : ∀ q c, Reached env q → q.job = .placing c → Within env q m →
    ∃ p id body, Site env p q c ∧
      (∀ name, lookupFrom q.state.scopes env.root name q.state.here =
        lookupFrom p.state.scopes env.root name p.state.here) ∧
      q.state.current = some id ∧ m.state.scopes[id]? = some body ∧ body.parent = c.scope ∧
      ∀ name, lookupFrom m.state.scopes env.root name c.scope =
        lookupFrom p.state.scopes env.root name p.state.here

lemma Anchored.height_le (h : Anchored env m) (hm : Topmost m.state) (hl : m.state.Keeps l) :
    l.height ≤ m.state.scopes.size := by
  cases hl with
  | here => exact Nat.le_of_eq hm
  | parent found =>
    obtain ⟨hid, -⟩ := Array.getElem?_eq_some_iff.mp found
    exact (h.descending _ _ found).trans hid.le
  | caller waits =>
    obtain ⟨p, hsite, habove⟩ := h.waiting _ waits
    exact hsite.height_eq ▸ habove.1.le

/-- The scopes are in order at every moment of every run. -/
theorem Reached.inOrder (hm : Reached env m) : m.InOrder env := by
  have h := hm.anchored
  refine
    { current_none := ⟨hm.topmost.of_idle, fun hempty => ?_⟩
      current_last := fun id => hm.topmost.of_current
      parent_lt := fun id c j hc hj => ?_
      callers := fun c hc => ?_
      lookups := fun l hl => ?_
      bodies := fun q c hq hplacing hwithin => ?_ }
  · cases hcurrent : m.state.current with
    | none => rfl
    | some id =>
      have hsize := hm.topmost.of_current hcurrent
      rw [hempty] at hsize
      cases hsize
  · have := h.descending id c hc
    rw [hj] at this
    exact this
  · obtain ⟨p, hsite, habove⟩ := h.waiting c hc
    refine ⟨?_, p, hsite, habove.2⟩
    have hheight := hsite.height_eq ▸ habove.1.le
    rw [hsite.scope_eq] at hheight ⊢
    unfold State.here at hheight ⊢
    cases hcurrent : p.state.current with
    | none => exact .inl rfl
    | some id =>
      rw [hcurrent] at hheight
      exact .inr ⟨id, hheight, rfl⟩
  · obtain ⟨frames, last, hsees⟩ := exists_sees h.descending l (h.height_le hm.topmost hl)
    exact ⟨frames, last, hsees, hsees.last_eq, hsees.lookupFrom_eq h.descending env.root⟩
  · obtain ⟨p, id, hsite, habove, hid, hbody⟩ := hq.anchored.placing c hplacing
    obtain ⟨-, hextends⟩ := hwithin.extends hq.topmost
    have hlast := hq.topmost.of_current hid
    have hparent := hextends.2.2 id (by omega)
    rw [hbody] at hparent
    obtain ⟨body, hget, hscope⟩ := Option.map_eq_some_iff.mp hparent
    refine ⟨p, id, body, hsite, fun name => ?_, hid, hget, hscope, fun name => ?_⟩
    · rw [State.here, hid, ← hsite.lookupFrom_eq hq habove.2]
      change lookupFrom q.state.scopes env.root name (.scope id) = _
      rw [lookupFrom]
      have hdown := hq.anchored.descending id _ hbody
      simp only [hbody, Dict.get?_nil, hdown, if_true]
    · exact hsite.lookupFrom_eq hm (habove.extends hextends).2 env.root name

/-- Calls a macro that places the body of the call block, which prints a variable of the
template. -/
def framing : Template where
  name := none
  dialect := .jinja
  body := [.assign "x" (.lit (.str "a")) .start,
    .callBlock (.name "frame") [] [.print (.var "x") .start] .start]
  macros := [("frame", ⟨"frame", [], [.print (.call "caller" []) .start]⟩)]
  blocks := []
  parent := none

/-- The scopes are in order where the macro of `framing` runs, and where it places the body. -/
theorem Reached.inOrder_framing :
    ∃ c p m, Reached ⟨Engine.default, []⟩ p ∧ p.state.callers = [c] ∧ m.job = .placing c ∧
      Within ⟨Engine.default, []⟩ p m ∧ p.InOrder ⟨Engine.default, []⟩ ∧
      m.InOrder ⟨Engine.default, []⟩ := by
  let env : Env := ⟨Engine.default, []⟩
  let s : State := { State.initial env framing with
    scopes := #[⟨[("x", .str "a")], .root⟩], current := some 0 }
  let c : Caller := ⟨[.print (.var "x") .start], .scope 0, framing, []⟩
  let inner : State := { s with callers := [c], macroDepth := 1 }.opened .isolated
  let code : List Instr := [.print (.call "caller" []) .start]
  let p : Moment := ⟨1, framing, .code code, inner, {}⟩
  let m : Moment := ⟨0, framing, .placing c, { inner with callers := [] }.opened (.scope 0), {}⟩
  have hassign : Yields (exec env (callsAt env 2) framing (.assign "x" (.lit (.str "a")) .start))
      (State.initial env framing) {} (.normal, "") s {} := rfl
  have hcall : Within env ⟨2, framing, .template, State.initial env framing, {}⟩
      ⟨2, framing, .calling (.name "frame") [] (some c) .start, s, {}⟩ :=
    .tail (.tail (.single (.start rfl)) (.pass hassign)) .callBlock
  have hmacro : Within env ⟨2, framing, .calling (.name "frame") [] (some c) .start, s, {}⟩ p :=
    .tail (.tail (.single (.named rfl rfl)) (.invoke (Nat.le_refl 0) (by decide))) .body
  have hargs : Yields (evalAll env (callsAt env 1) framing .start []) inner {} [] inner {} := rfl
  have hplace : Within env p m :=
    .tail (.tail (.tail (.single (.operands rfl)) .first) .call) (.caller rfl hargs rfl)
  have hp : Reached env p := ⟨2, framing, {}, hcall.trans hmacro⟩
  exact ⟨c, p, m, hp, rfl, rfl, hplace, Reached.inOrder hp, Reached.inOrder (hp.within hplace)⟩

end Stencil.Render
