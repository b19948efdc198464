import Stencil.Proofs.Moments
import Stencil.Proofs.ScopeArena
import Stencil.Proofs.SoloCode

/-! The rounds of a loop are independent. In a template that stands alone and never reads `loop`,
each round begins in the state in which the loop began and writes what it would write as the only
one, so that a loop over two lists in a row is the loop over the first one and then the loop over
the other one. -/
namespace Stencil.Render

/-- What a loop does with its items if it has no else part. -/
def forItems (env : Env) (calls : Calls) (t : Template) (binding : Binding) (body : List Instr)
    (pos : Position) (items : List Value) : RenderM (Flow × String) := do
  let output ← loop binding pos (execAll env calls t "" body) items.length 0 "" items
  return (.normal, output)

/-- What two pieces of code come to, of which the second one runs only if the first one ends well:
the first error, or both texts. -/
def inTurn : Except Stop ((Flow × String) × State) × Session →
    Except Stop ((Flow × String) × State) × Session →
      Except Stop ((Flow × String) × State) × Session
  | (.error e, τ), _ => (.error e, τ)
  | (.ok _, _), (.error e, τ) => (.error e, τ)
  | (.ok ((_, first), _), _), (.ok ((flow, second), u), τ) => (.ok ((flow, first ++ second), u), τ)

lemma exec_forEach (env : Env) (calls : Calls) (t : Template) (binding : Binding)
    (iterable : Expr) (body : List Instr) (pos : Position) :
    exec env calls t (.forEach binding iterable body [] pos) = (do
      let v ← eval env calls t pos iterable
      let items ← typed pos (loopItems binding v)
      forItems env calls t binding body pos items) := by
  rw [exec]
  congr 1
  funext v
  congr 1
  funext items
  cases items with
  | nil =>
    rw [execAll]
    rfl
  | cons item more => rfl

/-- A loop plays a round and, unless it exits the loop, goes on with the next one. -/
lemma loop_cons (env : Env) (calls : Calls) (t : Template) (binding : Binding) (pos : Position)
    (body : List Instr) (length i : Nat) (output : String) (item : Value) (more : List Value) :
    loop binding pos (execAll env calls t "" body) length i output (item :: more) =
      playRound env calls t binding pos body length i item >>= fun r =>
        match r.1 with
        | .exitLoop _ => pure (output ++ r.2)
        | _ =>
          loop binding pos (execAll env calls t "" body) length (i + 1) (output ++ r.2) more := by
  rw [loop, playRound]
  exact (bind_assoc _ _ _).symm

namespace Solo

variable {c : Solo} {m m' : Moment} {s u : State} {σ τ : Session} {n : Nat}

/-! ### Moments of a run of the template -/

/-- What begins is code of the template. -/
def Job (c : Solo) : Render.Job → Prop
  | .code body | .entering _ body | .rounds _ _ body _ _ _ | .params _ _ body _ =>
    Instr.ignoresAll c.hidden body = true
  | .calling _ _ caller _ => ∀ b ∈ caller, c.Owns b
  | .invoking m _ caller _ =>
    Instr.ignoresAll c.hidden m.body = true ∧ ∀ b ∈ caller, c.Owns b
  | .placing b => c.Owns b
  | .template | .expr _ _ | .exprs _ _ => True
  | .setUp _ | .load _ _ | .imports _ => False

structure Own (c : Solo) (m : Moment) : Prop where
  template : m.template = c.template
  job : c.Job m.job
  state : c.Plain m.state

lemma Plain.calm (hs : c.Plain s) : Calm True c.template s.overrides := by
  intro _
  rw [hs.overrides]
  exact ⟨c.ignores.quiet, List.forall_mem_nil _⟩

lemma Plain.written (hs : c.Plain s) (h : Written True s u) : c.Plain u := by
  obtain ⟨⟨_, _, _, rfl, himports⟩, -⟩ := h
  exact { hs with imports := (himports trivial).trans hs.imports }

lemma Plain.restored (hs : c.Plain s) (h : Restored True s u) : c.Plain u := hs.written h.written

lemma Agree.of_yields {α : Type} {Q : α → Prop} {x y : RenderM α} {a : α} (h : c.Agree Q x y)
    (hs : c.Plain s) (hr : Yields x s σ a u τ) : Q a ∧ c.Plain u := by
  obtain ⟨b, v, _, hx, -, hq, hv, -⟩ | ⟨e, hx, -⟩ := (h σ hs .refl).cases
  · cases hr.symm.trans hx
    exact ⟨hq, hv⟩
  · cases hr.symm.trans hx

/-- No name is an alias. -/
lemma not_aliased (hs : c.Plain s) {base : Expr} {named : String × Module} :
    ¬ Yields (aliased c.env base) s σ (some named) u τ := by
  intro h
  cases base with
  | var name =>
    obtain ⟨v, _, _, hv, hrest⟩ := Yields.of_bind h
    cases hv
    split at hrest
    · obtain ⟨_, _, _, hget, hpure⟩ := Yields.of_bind hrest
      cases hget
      rw [hs.imports] at hpure
      cases hpure
    · cases hrest
  | _ => cases h

/-- A round whose number is told under a name that is not read ends alike whatever its number. -/
lemma agree_playRound {body : List Instr} (hbody : Instr.ignoresAll c.hidden body = true)
    (binding : Binding) (pos : Position) (item : Value) {length i length' i' : Nat}
    (hvalue : "loop" ≠ c.hidden → loopState i length = loopState i' length') :
    c.Agree (c.Passes body)
      (playRound c.env (callsAt c.env n) c.template binding pos body length i item)
      (playRound c.env (callsAt c.env n) c.template binding pos body length' i' item) := by
  have hcode := blind_execAll (serves_callsAt c n) "" body hbody
  exact .bind blind_here fun l _ => agree_round hcode binding pos item hvalue l

/-- Every step leads to a moment of the same kind. -/
theorem Own.step (hm : c.Own m) (h : Meets c.env m m') : c.Own m' := by
  obtain ⟨n, t, job, s, σ⟩ := m
  obtain ⟨rfl, hjob, hs⟩ := hm
  dsimp only at hjob hs
  have hk : ∀ n, (callsAt c.env n).Tidy := tidy_callsAt c.env
  have heval : ∀ {n pos e v u τ}, Yields (eval c.env (callsAt c.env n) c.template pos e) s σ v u τ →
      c.Plain u := fun h => hs.restored (restored_eval (hk _) hs.calm _ _ .refl h)
  have hevalAll : ∀ {n pos es vs u τ},
      Yields (evalAll c.env (callsAt c.env n) c.template pos es) s σ vs u τ → c.Plain u :=
    fun h => hs.restored (restored_evalAll (hk _) hs.calm _ _ .refl h)
  have howner : ∀ name, (Dict.get? s.overrides name).getD c.template = c.template := by
    simp [hs.overrides]
  cases h with
  | start => exact ⟨rfl, c.ignores.body, hs⟩
  | extend above => cases c.ignores.parent.symm.trans above
  | settle | settled | skip | parentPath | ascend | path | loaded | inner | nextInner
  | skipInner => cases hjob
  | operands | parts | first | args | base | default => exact ⟨rfl, trivial, hs⟩
  | next run | both run | either run | chosen run | unchosen run =>
    exact ⟨rfl, trivial, heval run⟩
  | call | callMember => exact ⟨rfl, owns_none, hs⟩
  | entered | body => exact ⟨rfl, hjob, hs⟩
  | placed => exact ⟨rfl, hjob.body, hs⟩
  | round => exact ⟨rfl, hjob, hs.moved _ _⟩
  | pass run =>
    simp only [Job, Instr.ignoresAll, Bool.and_eq_true] at hjob
    have hwritten := written_exec (hk _) hs.calm _ (fun _ => Instr.aliases_of_ignores hjob.1)
      Restored.refl.written run
    exact ⟨rfl, hjob.2, hs.written hwritten⟩
  | branch run =>
    simp only [Job, Instr.ignoresAll, Instr.ignores, Bool.and_eq_true] at hjob
    refine ⟨rfl, ?_, heval run⟩
    simp only [Job]
    split
    · exact hjob.1.1.2
    · exact hjob.1.2
  | otherwise run =>
    simp only [Job, Instr.ignoresAll, Instr.ignores, Bool.and_eq_true] at hjob
    exact ⟨rfl, hjob.1.2, heval run⟩
  | rounds run =>
    simp only [Job, Instr.ignoresAll, Instr.ignores, Bool.and_eq_true] at hjob
    exact ⟨rfl, hjob.1.1.2, heval run⟩
  | nextRound run =>
    have hround := (agree_playRound hjob _ _ _ fun _ => rfl).of_yields hs run
    exact ⟨rfl, hjob, hround.2⟩
  | callBlock =>
    simp only [Job, Instr.ignoresAll, Instr.ignores, Bool.and_eq_true] at hjob
    refine ⟨rfl, ?_, hs⟩
    rintro _ ⟨⟩
    exact ⟨hjob.1.2, rfl, hs.imports⟩
  | «scoped» run =>
    simp only [Job, Instr.ignoresAll, Instr.ignores, Bool.and_eq_true] at hjob
    have hu := hs.restored (restored_evalBindings (hk _) hs.calm _ _ .refl run)
    exact ⟨rfl, hjob.1.2, hu.moved _ _⟩
  | @block _ _ name _ _ _ _ placed =>
    rw [howner] at placed
    exact ⟨howner name, c.ignores.block placed, hs⟩
  | including | importing => simp [Job, Instr.ignoresAll, Instr.ignores] at hjob
  | autoescape =>
    simp only [Job, Instr.ignoresAll, Instr.ignores, Bool.and_eq_true] at hjob
    exact ⟨rfl, hjob.1, { hs with }⟩
  | filtered =>
    simp only [Job, Instr.ignoresAll, Instr.ignores, Bool.and_eq_true] at hjob
    exact ⟨rfl, hjob.1.2, hs⟩
  | filterArgs run filters =>
    simp only [Job, Instr.ignoresAll, Instr.ignores, Bool.and_eq_true] at hjob
    have hu := hs.written (written_execAll (hk _) hs.calm "" _
      (fun _ => Instr.aliasesAll_of_ignores hjob.1.2) Restored.refl.written run)
    exact ⟨rfl, trivial, hu.restored (restored_applyFilters (hk _) hu.calm _ _ _ .refl filters)⟩
  | entering run => exact ⟨rfl, hjob, hs.written (written_setLocal _ _ Restored.refl.written run)⟩
  | named found run =>
    have hm := c.ignores.macroDef found
    rw [MacroDef.ignores, Bool.and_eq_true] at hm
    exact ⟨rfl, ⟨hm.2, hjob⟩, hevalAll run⟩
  | caller _ run innermost =>
    have hu := hevalAll run
    have hwaiting := hu.callers
    rw [innermost] at hwaiting
    obtain ⟨hb, hrest⟩ := List.forall_mem_cons.mp hwaiting
    exact ⟨hb.template, hb, { hu with callers := hrest, imports := hb.imports }⟩
  | memberArgs known | member known => cases not_aliased hs known
  | invoke =>
    refine ⟨rfl, hjob.1, { hs with callers := fun b hb => ?_ }⟩
    obtain hb | hb := List.mem_append.mp hb
    · exact hjob.2 b (Option.mem_toList.mp hb)
    · exact hs.callers b hb
  | bound run =>
    have hwritten := written_bindParams (hk _) hs.calm _ _ _ Restored.refl.written run
    exact ⟨rfl, hjob, hs.written hwritten⟩

lemma Own.within (hm : c.Own m) (h : Within c.env m m') : c.Own m' := by
  induction h with
  | refl => exact hm
  | tail _ hnext ih => exact ih.step hnext

/-! ### Rounds -/

section Rounds

variable {binding : Binding} {pos : Position} {body : List Instr} (hname : c.hidden = "loop")
  (hs : c.Plain s) (hbody : Instr.ignoresAll c.hidden body = true)
  (hexits : ∀ i ∈ body, ¬ i.Exits c.template)

/-- What a round writes for the item if the loop begins in the state `s`, or its error. -/
def round (c : Solo) (n : Nat) (binding : Binding) (pos : Position) (body : List Instr)
    (s : State) (σ : Session) (item : Value) : Except Stop String :=
  (((playRound c.env (callsAt c.env n) c.template binding pos body 1 0 item).run s).run σ).1.map
    fun r => r.1.2

include hname hs hbody hexits

/-- Whatever the number of a round, it ends alike, does not exit the loop and leaves the state and
the session as it found them. -/
lemma exists_playRound (n : Nat) (item : Value) :
    ∃ r : Except Stop (Flow × String), (∀ x, r = .ok x → ∀ pos, x.1 ≠ .exitLoop pos) ∧
      ∀ length i, ((playRound c.env (callsAt c.env n) c.template binding pos body length i
        item).run s).run σ = (r.map fun x => (x, s), σ) := by
  have hself : ∀ {length i x u}, Yields (playRound c.env (callsAt c.env n) c.template binding pos
      body length i item) s σ x u σ → u = s := by
    intro length i x u hr
    obtain ⟨-, hu⟩ := (agree_playRound hbody binding pos item fun _ => rfl).of_yields hs hr
    obtain ⟨imports, rfl, -⟩ := hr.restored_playRound
    have himports : imports = s.imports := hu.imports.trans hs.imports.symm
    rw [himports]
  have hagree : ∀ length i, c.Ends (c.Passes body) σ
      (((playRound c.env (callsAt c.env n) c.template binding pos body 1 0 item).run s).run σ)
      (((playRound c.env (callsAt c.env n) c.template binding pos body length i item).run s).run σ)
      := fun length i =>
    agree_playRound hbody binding pos item (fun h => absurd hname.symm h) σ hs .refl
  obtain ⟨x, u, _, hr, -, hpasses, -, -⟩ | ⟨e, hr, -⟩ := (hagree 1 0).cases
  · refine ⟨.ok x, ?_, fun length i => ?_⟩
    · rintro _ ⟨⟩
      exact hpasses hexits
    · obtain ⟨y, v, v', hr', hrun, -, -, -⟩ | ⟨e, hr', -⟩ := (hagree length i).cases
      · cases hr.symm.trans hr'
        rw [hrun, hself hrun]
        rfl
      · cases hr.symm.trans hr'
  · refine ⟨.error e, nofun, fun length i => ?_⟩
    obtain ⟨y, v, v', hr', -⟩ | ⟨e', hr', hrun⟩ := (hagree length i).cases
    · cases hr.symm.trans hr'
    · cases hr.symm.trans hr'
      exact hrun

/-- A loop writes what its rounds write, one after the other, and ends with the error of the first
round that fails. -/
theorem run_loop (n length i : Nat) (output : String) (items : List Value) :
    ((loop binding pos (execAll c.env (callsAt c.env n) c.template "" body) length i output
      items).run s).run σ =
      ((items.mapM (c.round n binding pos body s σ)).map
        fun written => (output ++ String.join written, s), σ) := by
  induction items generalizing i output with
  | nil =>
    rw [List.mapM_nil, loop]
    simp only [pure, Except.pure, Except.map, String.join_nil, String.append_empty]
    rfl
  | cons item more ih =>
    obtain ⟨r, hstays, hrun⟩ : ∃ r : Except Stop (Flow × String),
        (∀ x, r = .ok x → ∀ pos, x.1 ≠ .exitLoop pos) ∧ ∀ length i, ((playRound c.env
          (callsAt c.env n) c.template binding pos body length i item).run s).run σ =
            (r.map fun x => (x, s), σ) := exists_playRound hname hs hbody hexits n item
    have hround : c.round n binding pos body s σ item = r.map Prod.snd := by
      unfold round
      rw [hrun]
      cases r with
      | ok x | error e => rfl
    rw [loop_cons, List.mapM_cons, hround]
    cases r with
    | error e => exact run_bind_error _ (hrun length i)
    | ok x =>
      obtain ⟨flow, written⟩ := x
      rw [run_bind_ok _ (hrun length i)]
      have hmore := ih (i + 1) (output ++ written)
      cases flow with
      | exitLoop stop => exact absurd rfl (hstays _ rfl stop)
      | normal | nextItem stop =>
        simp only [hmore]
        cases more.mapM (c.round n binding pos body s σ) with
        | error e => rfl
        | ok ws =>
          simp only [Except.map, bind, Except.bind, pure, Except.pure, String.join_cons,
            String.append_assoc]

/-- The same for the whole loop, which ends normally in the state in which it began. -/
lemma run_forItems (n : Nat) (items : List Value) :
    ((forItems c.env (callsAt c.env n) c.template binding body pos items).run s).run σ =
      ((items.mapM (c.round n binding pos body s σ)).map
        fun written => ((.normal, String.join written), s), σ) := by
  have hloop : ((loop binding pos (execAll c.env (callsAt c.env n) c.template "" body) items.length
      0 "" items).run s).run σ = ((items.mapM (c.round n binding pos body s σ)).map
        fun written => ("" ++ String.join written, s), σ) :=
    run_loop hname hs hbody hexits n items.length 0 "" items
  unfold forItems
  cases hitems : items.mapM (c.round n binding pos body s σ) with
  | error e =>
    rw [hitems] at hloop
    exact run_bind_error _ hloop
  | ok written =>
    rw [hitems] at hloop
    rw [run_bind_ok _ hloop]
    simp only [String.empty_append]
    rfl

end Rounds

end Solo

/-- The rounds of a loop are independent. In a template that is rendered on its own, that loads no
other template and nowhere reads `loop`, let a loop without an else part come to no `break` of its
own. From any state that the rendering can reach, the loop over two lists in a row ends like the
loop over the first one, if that fails, and else like the loop over the other one from the same
state, behind what the first one wrote. -/
theorem forItems_append {env : Env} {t : Template} (ht : t.Ignores "loop") {n : Nat}
    {σ₀ : Session} {m : Moment} (hm : Within env ⟨n, t, .template, State.initial env t, σ₀⟩ m)
    {body : List Instr} (hbody : Instr.ignoresAll "loop" body = true)
    (hexits : ∀ i ∈ body, ¬ i.Exits t) (binding : Binding) (pos : Position) (k : Nat)
    (σ : Session) :
    (∀ iterable, exec env (callsAt env k) t (.forEach binding iterable body [] pos) = (do
      let v ← eval env (callsAt env k) t pos iterable
      let items ← typed pos (loopItems binding v)
      forItems env (callsAt env k) t binding body pos items)) ∧
    ∀ xs ys : List Value,
      let walk := fun items =>
        ((forItems env (callsAt env k) t binding body pos items).run m.state).run σ
      walk (xs ++ ys) = inTurn (walk xs) (walk ys) ∧
      ∀ x u τ, walk xs = (.ok (x, u), τ) → x.1 = .normal ∧ u = m.state ∧ τ = σ := by
  refine ⟨fun iterable => exec_forEach env _ t binding iterable body pos, fun xs ys => ?_⟩
  let c : Solo := ⟨env, t, "loop", ht⟩
  have hfirst : c.Own ⟨n, t, .template, State.initial env t, σ₀⟩ :=
    ⟨rfl, trivial, rfl, rfl, List.forall_mem_nil _⟩
  have hrun : ∀ items, ((forItems env (callsAt env k) t binding body pos items).run m.state).run σ =
      ((items.mapM (c.round k binding pos body m.state σ)).map
        fun written => ((.normal, String.join written), m.state), σ) :=
    Solo.run_forItems rfl (hfirst.within hm).state hbody hexits k
  simp only [hrun, List.mapM_append]
  cases xs.mapM (c.round k binding pos body m.state σ) with
  | error e => exact ⟨rfl, nofun⟩
  | ok as =>
    refine ⟨?_, ?_⟩
    · cases ys.mapM (c.round k binding pos body m.state σ) with
      | error e => rfl
      | ok bs =>
        simp only [Except.map, bind, Except.bind, pure, Except.pure, String.join_append, inTurn]
    · rintro _ _ _ ⟨⟩
      exact ⟨rfl, rfl, rfl⟩

/-- The body of a loop: a loop of its own, a call block that places a block, and a filter block
that is left early. -/
def cells : List Instr :=
  [.assign "y" (.var "x") .start,
    .forEach (.single "z") (.list [.var "y"]) [.text "-", .exitLoop .start] [] .start,
    .callBlock (.name "row") [.var "y"] [.block "mark"] .start,
    .filtered [⟨"trim", []⟩] [.branch (.var "y") [.nextItem .start] [] .start] .start]

def report : Template where
  name := none
  dialect := .jinja
  body := [.forEach (.single "x") (.var "xs") cells [] .start]
  macros := [("row", ⟨"row", [⟨"cell", none⟩],
    [.print (.var "cell") .start, .print (.call "caller" []) .start]⟩)]
  blocks := [("mark", [.text "!"])]
  parent := none

lemma ignores_report : report.Ignores "loop" := by
  constructor
  · rfl
  · decide
  · simp only [report, List.forall_mem_singleton]
    decide
  · simp only [report, List.forall_mem_singleton]
    decide

/-- The loop of the report over the items. -/
def reportLoop (items : List Value) : Except Stop ((Flow × String) × State) × Session :=
  let env : Env := ⟨{ registry := Registry.builtin }, []⟩
  ((forItems env (callsAt env 4) report (.single "x") cells .start items).run
    (State.initial env report)).run {}

theorem forItems_append_report :
    report.Ignores "loop" ∧ Instr.ignoresAll "loop" cells = true ∧
      (∀ i ∈ cells, ¬ i.Exits report) ∧
      (reportLoop [.str "a"]).1.toOption.map (fun r => r.1.2) = some "-a!" ∧
      reportLoop ([.str "a"] ++ [.str "b"]) =
        inTurn (reportLoop [.str "a"]) (reportLoop [.str "b"]) := by
  let env : Env := ⟨{ registry := Registry.builtin }, []⟩
  have hm : Within env ⟨4, report, .template, State.initial env report, {}⟩
      ⟨4, report, .code report.body, State.initial env report, {}⟩ := .single (.start rfl)
  have hcells : Instr.ignoresAll "loop" cells = true := by decide
  have hexits : ∀ i ∈ cells, ¬ i.Exits report := by
    intro i hi h
    simp only [cells, List.mem_cons, List.not_mem_nil, or_false] at hi
    obtain rfl | rfl | rfl | rfl := hi
    · cases h
    · cases h with
      | afterLoop stands => cases stands
    · cases h
    · cases h with
      | filtered stands exits =>
        rw [List.mem_singleton.mp stands] at exits
        cases exits with
        | branch stands exits =>
          rw [List.mem_singleton.mp stands] at exits
          cases exits
        | otherwise stands => cases stands
  obtain ⟨-, happend⟩ :=
    forItems_append ignores_report hm hcells hexits (.single "x") .start 4 {}
  refine ⟨ignores_report, hcells, hexits, by decide +kernel, ?_⟩
  exact (happend [.str "a"] [.str "b"]).1

end Stencil.Render
