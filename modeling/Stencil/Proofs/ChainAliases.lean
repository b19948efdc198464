import Stencil.Proofs.ControlPoint
import Stencil.Proofs.Termination

/-! Which module an alias names in a chain of templates. All templates of a chain share the imports
of the run, so that an alias names what was imported under it last: the imports of a template hold
in its blocks unless a template further up the chain imports under the same alias. -/
namespace Stencil.Render

/-- What the task imports under, beside macros and blocks. -/
def Task.aliases : Task → List String
  | .setUp code | .body code | .rounds _ _ code _ _ _ => Instr.aliasesAll code

/-- A run comes from one point to the other, and if an alias is given, to no code that imports
under it. -/
def Reaches (env : Env) (asName : Option String) : Point → Point → Prop :=
  Relation.ReflTransGen fun P Q => Next env P Q ∧ ∀ a ∈ asName, a ∉ Q.task.aliases

/-- Unless it is a variable, the alias names the module. -/
def Resolves (env : Env) (asName : String) (module : Module) (s : State) : Prop :=
  (lookupFrom s.scopes env.root asName s.here).isUndefined = true → ∀ σ,
    ((aliased env (.var asName)).run s).run σ = (.ok (some (asName, module), s), σ)

lemma resolves_of_get? {env : Env} {asName : String} {module : Module} {s : State}
    (h : Dict.get? s.imports asName = some module) : Resolves env asName module s := by
  intro hvar σ
  have hlookup : ((lookup env.root asName).run s).run σ =
      (.ok (lookupFrom s.scopes env.root asName s.here, s), σ) := rfl
  unfold aliased
  rw [run_bind_ok _ hlookup, if_pos hvar, run_bind_get, h]
  rfl

namespace World

variable {W : World} {c : Scene} {P Q : Point} {α : Type}

lemma Steps.of_yields {P P' : State → Prop} {Q : α → Prop} {x y : RenderM α} {s t : State}
    {σ τ : Session} {a : α} (h : W.Steps P P' Q x y) (hs : P s) (hσ : σ.All W.admits)
    (hr : Yields x s σ a t τ) : Q a ∧ P' t ∧ τ.All W.admits := by
  have hself : s.Mirrored s := ⟨s.overrides, rfl⟩
  rcases (h hs hself hσ).cases with ⟨b, u, _, υ, hx, -, hq, hu, -, hυ⟩ | ⟨e, υ, hx, -, -⟩
  · cases hr.symm.trans hx
    exact ⟨hq, hu, hυ⟩
  · cases hr.symm.trans hx

/-- The scene lets the task run. -/
def Suits (W : World) (c : Scene) (n : Nat) (t : Template) : Task → Prop
  | .setUp code => (∀ p ∈ c.pin, p.1 ∉ Instr.aliasesAll code) ∧ W.effort c + W.width + 1 ≤ n
  | .body code | .rounds _ _ code _ _ _ =>
    ∃ r, Code c t r (Instr.placedAll code) (Instr.aliasesAll code) ∧ W.effort c + r + 1 ≤ n

lemma Suits.effort_lt {n : Nat} {t : Template} {task : Task} (h : W.Suits c n t task) :
    W.effort c + 1 ≤ n := by
  cases task with
  | setUp code =>
    obtain ⟨-, hn⟩ := h
    omega
  | body code | rounds _ _ code _ _ _ =>
    obtain ⟨r, -, hn⟩ := h
    omega

/-- The scene is around the point. -/
structure Fits (W : World) (c : Scene) (P : Point) : Prop where
  valid : W.Valid c
  holds : W.Holds c P.state
  template : W.admits P.template
  session : P.session.All W.admits
  task : W.Suits c P.fuel P.template P.task

lemma serves_self (n : Nat) : W.Serves n (callsAt W.env n) (referenceAt W.env n) :=
  serves (Nat.le_refl n)

/-- Where a template starts. -/
lemma fits_start {n : Nat} {t : Template} {s : State} {σ : Session} (hc : W.Valid c)
    (hs : W.Holds c s) (ht : W.admits t) (hσ : σ.All W.admits)
    (hlength : c.derived.length ≤ c.active.length) (hn : W.effort c + W.width + 1 ≤ n)
    (hspares : ∀ p ∈ c.pin, p.1 ∉ Instr.aliasesAll t.body) :
    ∃ c', c'.pin = c.pin ∧ W.Fits c' (.start n t s σ) := by
  unfold Point.start
  cases t.parent with
  | none => exact ⟨c, rfl, hc, hs, ht, hσ, _, hc.code ht (W.layered ht).body hspares, hn⟩
  | some p =>
    refine ⟨c.below t, rfl, hc.below ht hlength, ?_, ht, hσ, hspares, hn⟩
    exact { hs with overrides := congrArg (addOverrides t) hs.overrides }

lemma mirrors_pushScope (l : Link) :
    W.Mirrors c (fun _ => True) (pushScope l) (pushScope l) := by
  rintro s _ σ hs ⟨o, rfl⟩ hσ
  exact .ok trivial (Holds.unscoped _ _ hs) ⟨o, rfl⟩ hσ

lemma mirrors_openRound (binding : Binding) (pos : Position) (length i : Nat) (item : Value) :
    W.Mirrors c (fun _ => True) (openRound binding pos length i item)
      (openRound binding pos length i item) := by
  refine Steps.bind mirrors_here fun l _ => Steps.bind (mirrors_pushScope l) fun _ _ => ?_
  refine Steps.bind (mirrors_typed pos _) fun vars _ => ?_
  exact Steps.bind (mirrors_setLocals vars) fun _ _ => mirrors_setLocal "loop" _

lemma mirrors_playRound {n r : Nat} {k : Calls} {k' : List Template → Calls} {t : Template}
    (hk : W.Serves n k k') (hc : W.Valid c) (ht : W.admits t) (hn : W.effort c + r + 1 ≤ n)
    (binding : Binding) (pos : Position) {code : List Instr}
    (hcode : Code c t r (Instr.placedAll code) (Instr.aliasesAll code)) (length i : Nat)
    (item : Value) :
    W.Mirrors c (fun _ => True) (playRound W.env k t binding pos code length i item)
      (do
        inScope (← here) do
          setLocals (← typed pos (bindItem binding item))
          setLocal "loop" (loopState i length)
          execAllBy W.env (k' c.derived) (placeFirst c.derived (k' c.derived) t) t "" code) := by
  refine Steps.bind mirrors_here fun l _ => Mirrors.inScope ?_ l
  refine Steps.bind (mirrors_typed pos _) fun vars _ => ?_
  refine Steps.bind (mirrors_setLocals vars) fun _ _ => ?_
  exact Steps.bind (mirrors_setLocal "loop" _) fun _ _ => mirrors_execAll hk hc ht hn code hcode

/-- Code that leaves the scene as it was leads to a point in the same scene. -/
lemma Fits.moved (h : W.Fits c P) {x y : RenderM α} {R : α → Prop} (hx : W.Mirrors c R x y)
    {a : α} (hr : Yields x P.state P.session a Q.state Q.session)
    (ht : Q.template = P.template) (htask : W.Suits c Q.fuel Q.template Q.task) :
    ∃ c', c'.pin = c.pin ∧ W.Fits c' Q := by
  obtain ⟨-, hs, hσ⟩ := Steps.of_yields hx h.holds h.session hr
  exact ⟨c, rfl, h.valid, hs, ht ▸ h.template, hσ, htask⟩

/-- An import is known to stay in what is left of the code. -/
lemma Fits.pinned {n : Nat} {owner : Template} {task : List Instr → Task}
    (htask : task = .setUp ∨ task = .body) {i : Instr} {rest : List Instr} {s u : State}
    {τ υ : Session} (h : W.Fits c ⟨n, owner, task (i :: rest), s, τ⟩) {asName : String}
    {module : Module} (hu : W.Holds c u) (hυ : υ.All W.admits)
    (hmodule : module.All W.admits) (hspares : ∀ t, W.admits t → t.Spares asName)
    (hrest : asName ∉ Instr.aliasesAll rest) :
    W.Fits { c with pin := some (asName, module) }
      ⟨n, owner, task rest, { u with imports := Dict.insert asName module u.imports }, υ⟩ where
  valid := { h.valid with
    spares := by
      rintro _ ⟨⟩
      exact hspares }
  holds := { hu with
    imports := Dict.forall_mem_insert hmodule hu.imports
    pin := by
      rintro _ ⟨⟩
      exact Dict.get?_insert_self .. }
  template := h.template
  session := hυ
  task := by
    have hsome : ∀ p ∈ some (asName, module), p.1 ∉ Instr.aliasesAll rest := by
      rintro _ ⟨⟩
      exact hrest
    have hsuits := h.task
    rcases htask with rfl | rfl
    · exact ⟨hsome, hsuits.2⟩
    · obtain ⟨r, hcode, hn⟩ := hsuits
      rw [Instr.placedAll, Instr.aliasesAll] at hcode
      exact ⟨r, { hcode.right with spares := hsome }, hn⟩

/-- One step keeps what is known of the point. -/
theorem Fits.next (h : W.Fits c P) (hnext : Next W.env P Q)
    (hspares : ∀ p ∈ c.pin, p.1 ∉ Q.task.aliases) :
    ∃ c', c'.pin = c.pin ∧ W.Fits c' Q := by
  have hk := serves_self (W := W) P.fuel
  have hc := h.valid
  have ht := h.template
  have htask := h.task
  cases hnext with
  | @settle n t i more s σ r s' σ' hi run =>
    obtain ⟨halias, hn⟩ := htask
    cases i with
    | assign name e pos =>
      exact h.moved (mirrors_assign hk hc ht (by omega) name e pos) run rfl ⟨hspares, hn⟩
    | importing path asName pos =>
      have hname : ∀ p ∈ c.pin, p.1 ∉ [asName] := fun p hp hmem =>
        halias p hp (List.mem_append_left _ hmem)
      exact h.moved (mirrors_importing hk hc ht (by omega) path hname pos) run rfl ⟨hspares, hn⟩
    | _ => cases hi
  | skip hi => exact ⟨c, rfl, hc, h.holds, ht, h.session, hspares, htask.2⟩
  | @ascend n t path pos s σ name s₁ σ₁ parent s' σ' hparent heval henter =>
    have hn : W.effort c + W.width + 1 ≤ n + 1 := htask.2
    have hk := serves_self (W := W) (n + 1)
    obtain ⟨-, hs₁, hσ₁⟩ := Steps.of_yields
      (mirrors_evalPath hk hc ht (by omega) path pos) h.holds h.session heval
    obtain ⟨⟨hadmits, hactive⟩, hs', hσ'⟩ := Steps.of_yields (steps_enter name pos) hs₁ hσ₁ henter
    have hcost : W.effort (c.entered name) + W.width + 1 ≤ n := by
      have := effort_entered name hactive
      omega
    have hbody : ∀ p ∈ c.pin, p.1 ∉ Instr.aliasesAll parent.body := by
      intro p hp
      have halias := hspares p hp
      unfold Point.start at halias
      split at halias
      · exact halias
      · exact halias
    obtain ⟨c', hpin, hfits⟩ :=
      fits_start (hc.entered name hactive) hs' hadmits hσ' hc.length hcost hbody
    exact ⟨c', hpin, hfits⟩
  | @pass n t i more s σ output s' σ' run =>
    obtain ⟨r, hcode, hn⟩ := htask
    rw [Instr.placedAll, Instr.aliasesAll] at hcode
    rw [← execBy_placeBlock] at run
    have hexec := mirrors_execBy hk hc ht
      (fun name hname => mirrors_placeBlock hk hc ht hname hn) hn i hcode.left
    exact h.moved hexec run rfl ⟨r, hcode.right, hn⟩
  | @branch n t condition body otherwise pos more s σ v s' σ' run =>
    obtain ⟨r, hcode, hn⟩ := htask
    rw [Instr.placedAll, Instr.aliasesAll, Instr.placed, Instr.aliases] at hcode
    refine h.moved (mirrors_eval hk hc ht (by omega) pos condition) run rfl ⟨r, ?_, hn⟩
    cases v.isTruthy with
    | true => exact hcode.left.left
    | false => exact hcode.left.right
  | @otherwise n t binding iterable body otherwise pos more s σ v s' σ' run hitems =>
    obtain ⟨r, hcode, hn⟩ := htask
    rw [Instr.placedAll, Instr.aliasesAll, Instr.placed, Instr.aliases] at hcode
    exact h.moved (mirrors_eval hk hc ht (by omega) pos iterable) run rfl
      ⟨r, hcode.left.right, hn⟩
  | @rounds n t binding iterable body otherwise pos more s σ v item items s' σ' run hitems =>
    obtain ⟨r, hcode, hn⟩ := htask
    rw [Instr.placedAll, Instr.aliasesAll, Instr.placed, Instr.aliases] at hcode
    exact h.moved (mirrors_eval hk hc ht (by omega) pos iterable) run rfl
      ⟨r, hcode.left.left, hn⟩
  | @round n t binding pos code length i item items s σ s' σ' run =>
    exact h.moved (mirrors_openRound binding pos length i item) run rfl htask
  | @nextRound n t binding pos code length i item items s σ flow output s' σ' run hstays =>
    obtain ⟨r, hcode, hn⟩ := htask
    exact h.moved (mirrors_playRound hk hc ht hn binding pos hcode length i item) run rfl
      ⟨r, hcode, hn⟩
  | @«scoped» n t bindings body pos more s σ vars s₁ σ₁ s' σ' run hopened =>
    obtain ⟨r, hcode, hn⟩ := htask
    rw [Instr.placedAll, Instr.aliasesAll, Instr.placed, Instr.aliases] at hcode
    obtain ⟨-, hs₁, hσ₁⟩ := Steps.of_yields
      (mirrors_evalBindings hk hc ht (by omega) pos bindings) h.holds h.session run
    have hopen := Steps.bind mirrors_here fun l _ =>
      Steps.bind (mirrors_pushScope (W := W) (c := c) l) fun _ _ => mirrors_setLocals vars
    obtain ⟨-, hs', hσ'⟩ := Steps.of_yields hopen hs₁ hσ₁ hopened
    exact ⟨c, rfl, hc, hs', ht, hσ', r, hcode.left, hn⟩
  | @autoescape n t enabled body more s σ =>
    obtain ⟨r, hcode, hn⟩ := htask
    rw [Instr.placedAll, Instr.aliasesAll, Instr.placed, Instr.aliases] at hcode
    exact ⟨c, rfl, hc, { h.holds with }, ht, h.session, r, hcode.left, hn⟩
  | @filtered n t filters body pos more s σ =>
    obtain ⟨r, hcode, hn⟩ := htask
    rw [Instr.placedAll, Instr.aliasesAll, Instr.placed, Instr.aliases] at hcode
    exact ⟨c, rfl, hc, h.holds, ht, h.session, r, hcode.left, hn⟩
  | @block n t name more s σ body hplaced =>
    obtain ⟨r, hcode, hn⟩ := htask
    rw [Instr.placedAll, Instr.aliasesAll, Instr.placed, Instr.aliases] at hcode
    have howner : (Dict.get? s.overrides name).getD t = definer c.derived t name := by
      rw [h.holds.overrides, hc.overrides, definer]
    rw [howner] at hplaced ⊢
    cases r with
    | zero => cases hcode.left.shallow
    | succ r =>
      have hn : W.effort c + r + 1 ≤ n := Nat.le_of_succ_le_succ hn
      exact ⟨c, rfl, hc, h.holds, hc.definer ht name, h.session, r,
        hcode.left.block hc ht hplaced, hn⟩

/-- A run from point to point keeps what is known, as long as it does not come to an import under
the alias of the scene. -/
theorem Fits.reached {pin : Option (String × Module)} (h : ∃ c, c.pin = pin ∧ W.Fits c P)
    (hreach : Reaches W.env (pin.map Prod.fst) P Q) : ∃ c, c.pin = pin ∧ W.Fits c Q := by
  induction hreach with
  | refl => exact h
  | tail _ hnext ih =>
    obtain ⟨c, rfl, hfits⟩ := ih
    exact hfits.next hnext.1 fun p hp => hnext.2 _ (Option.mem_map_of_mem _ hp)

/-- All templates of an engine are layered and import under the alias only at their top level. -/
def sparing (env : Env) (asName : String)
    (hoffers : env.engine.Offers (Template.Spares asName)) : World where
  env := env
  admits t := t.Layered ∧ t.Spares asName
  layered := And.left
  fetch path _ hσ := by
    refine Engine.all_fetch (fun load path source t hload hsource ht => ?_) hσ path
    exact ⟨Template.Compiled.layered ⟨_, _, some path, source, ht⟩,
      hoffers load path source t hload hsource ht⟩

end World

/-- An import at the top level of a template of a chain holds from then on: at every point of the
chain that is reached without another import under the alias, in all blocks that are placed
inside each other, and while expressions are evaluated there. What was imported under the alias
before does not matter, and inside blocks and macros nothing is imported under it. -/
theorem resolves_of_reached {e : Engine} {vars : Dict Value} {asName : String}
    (hoffers : e.Offers (Template.Spares asName)) {t : Template} (ht : t.Layered)
    (hspares : t.Spares asName) {σ : Session}
    (hσ : σ.All fun t => t.Layered ∧ t.Spares asName) {n m : Nat}
    (hfuel : fuelFor e.config.maxDepth = m + 1) {owner : Template} {path : Expr} {pos : Position}
    {rest : List Instr} {task : List Instr → Task} (htask : task = .setUp ∨ task = .body)
    {s u : State} {τ υ : Session}
    (hto : Reaches ⟨e, vars⟩ none (.start m t (.initial ⟨e, vars⟩ t) σ)
      ⟨n, owner, task (.importing path asName pos :: rest), s, τ⟩)
    {module : Module} (hload : Yields ((callsAt ⟨e, vars⟩ n).load owner path pos) s τ module u υ)
    (hrest : asName ∉ Instr.aliasesAll rest) {Q : Point}
    (hfrom : Reaches ⟨e, vars⟩ (some asName)
      ⟨n, owner, task rest, { u with imports := Dict.insert asName module u.imports }, υ⟩ Q) :
    Resolves ⟨e, vars⟩ asName module Q.state ∧
      ∀ pos expr v s' σ',
        Yields (eval ⟨e, vars⟩ (callsAt ⟨e, vars⟩ Q.fuel) Q.template pos expr) Q.state Q.session
          v s' σ' →
        Resolves ⟨e, vars⟩ asName module s' := by
  set W := World.sparing ⟨e, vars⟩ asName hoffers
  have hcost : W.effort (Scene.initial t) + W.width + 1 ≤ m := by
    have henough : W.effort (Scene.initial t) + W.width + 2 ≤ fuelFor e.config.maxDepth :=
      W.effort_initial_le t
    omega
  have hstart := World.fits_start (W := W) (World.valid_initial t) (World.holds_initial t)
    ⟨ht, hspares⟩ hσ (Nat.zero_le _) hcost nofun
  obtain ⟨c, -, hfits⟩ := World.Fits.reached hstart hto
  have hk := World.serves_self (W := W) n
  have hmirrors := hk.load hfits.valid hfits.template hfits.task.effort_lt path pos
  obtain ⟨hmodule, hu, hυ⟩ := World.Steps.of_yields hmirrors hfits.holds hfits.session hload
  have hpinned := hfits.pinned htask hu hυ hmodule (fun _ h => h.2) hrest
  have hstart' : ∃ c, c.pin = some (asName, module) ∧ W.Fits c _ := ⟨_, rfl, hpinned⟩
  obtain ⟨c', hpin', hfits'⟩ := World.Fits.reached hstart' hfrom
  have hresolves : ∀ {s}, W.Holds c' s → Resolves ⟨e, vars⟩ asName module s := fun hs =>
    resolves_of_get? (hs.pin (asName, module) hpin')
  refine ⟨hresolves hfits'.holds, fun pos expr v s' σ' heval => ?_⟩
  obtain ⟨-, hs', -⟩ := World.Steps.of_yields
    (World.mirrors_eval (World.serves_self Q.fuel) hfits'.valid hfits'.template
      (Nat.le_of_succ_le hfits'.task.effort_lt) pos expr) hfits'.holds hfits'.session heval
  exact hresolves hs'

/-- A template with a macro. -/
def greetings : Template where
  name := some "a"
  dialect := .jinja
  body := []
  macros := [("hi", ⟨"hi", [], [.text "hi"]⟩)]
  blocks := []
  parent := none

/-- A template that places a block. -/
def layout : Template where
  name := some "base"
  dialect := .jinja
  body := [.block "x"]
  macros := []
  blocks := [("x", [])]
  parent := none

/-- Extends `layout`, and calls the macro of `greetings` in the block. -/
def greeter : Template where
  name := none
  dialect := .jinja
  body := [.importing (.str "a") "m" .start]
  macros := []
  blocks := [("x", [.print (.callMember (.var "m") "hi" []) .start])]
  parent := some (.str "base", .start)

/-- An engine that keeps both templates. -/
def greetingEngine : Engine where
  config := { maxDepth := 1 }
  registry := Registry.builtin

def greetingSession : Session where
  cache := { entries := [("a", ⟨0, greetings⟩), ("base", ⟨1, layout⟩)], order := ["a", "base"] }

/-- A state of a run of `greeter`. -/
def greeting (imports : Dict Module) (active : List String) : State where
  autoescape := false
  overrides := [("x", greeter)]
  imports := imports
  active := active

lemma settled_single {name : String} {body : List Instr} (h : Instr.placedAll body = []) :
    ∀ b, Dict.contains [(name, body)] b = true → Settled [(name, body)] Parser.maxNesting b := by
  intro b hb
  rw [Dict.contains, Dict.get?_cons] at hb
  split at hb
  · refine ⟨body, ?_, by rw [h]; exact List.forall_mem_nil _⟩
    rw [Dict.get?_cons, if_pos ‹_›]
  · cases hb

lemma greetings_admitted : greetings.Layered ∧ greetings.Spares "m" :=
  ⟨⟨nofun, nofun, by decide⟩, by decide, by decide⟩

lemma layout_admitted : layout.Layered ∧ layout.Spares "m" :=
  ⟨⟨settled_single rfl, by decide, nofun⟩, nofun, by decide⟩

lemma greeter_admitted : greeter.Layered ∧ greeter.Spares "m" :=
  ⟨⟨settled_single rfl, nofun, nofun⟩, nofun, by decide⟩

/-- The alias names the imported module where the block of `greeter` calls its macro. -/
theorem resolves_of_reached_greeter :
    ∃ Q : Point, Q.template = greeter ∧
      Q.task = .body [.print (.callMember (.var "m") "hi" []) .start] ∧
      Resolves ⟨greetingEngine, []⟩ "m" (.mk greetings []) Q.state := by
  let env : Env := ⟨greetingEngine, []⟩
  let imports : Dict Module := [("m", .mk greetings [])]
  have hkept : greetingSession.All fun t => t.Layered ∧ t.Spares "m" :=
    List.forall_mem_cons.mpr
      ⟨greetings_admitted, List.forall_mem_singleton.mpr layout_admitted⟩
  have hload : Yields ((callsAt env 2339).load greeter (.str "a") .start) (greeting [] [])
      greetingSession (.mk greetings []) (greeting [] []) greetingSession := rfl
  have heval : Yields (evalPath env (callsAt env 2339) greeter (.str "base") .start)
      (greeting imports []) greetingSession "base" (greeting imports []) greetingSession := rfl
  have henter : Yields (enter env "base" .start) (greeting imports []) greetingSession layout
      (greeting imports ["base"]) greetingSession := rfl
  have hup : Next env ⟨2339, greeter, .setUp [], greeting imports [], greetingSession⟩
      ⟨2338, layout, .body [.block "x"], greeting imports ["base"], greetingSession⟩ :=
    .ascend rfl heval henter
  have hblock : Next env
      ⟨2338, layout, .body [.block "x"], greeting imports ["base"], greetingSession⟩
      ⟨2337, greeter, .body [.print (.callMember (.var "m") "hi" []) .start],
        greeting imports ["base"], greetingSession⟩ :=
    .block rfl
  have hpath : Reaches env (some "m")
      ⟨2339, greeter, .setUp [], greeting imports [], greetingSession⟩
      ⟨2337, greeter, .body [.print (.callMember (.var "m") "hi" []) .start],
        greeting imports ["base"], greetingSession⟩ :=
    .tail (.single ⟨hup, by rintro _ ⟨⟩; decide⟩) ⟨hblock, by rintro _ ⟨⟩; decide⟩
  have hoffers : greetingEngine.Offers (Template.Spares "m") := nofun
  have hstart : Reaches env none (.start 2339 greeter (.initial env greeter) greetingSession)
      ⟨2339, greeter, .setUp [.importing (.str "a") "m" .start], greeting [] [],
        greetingSession⟩ := .refl
  have hfuel : fuelFor greetingEngine.config.maxDepth = 2339 + 1 := by decide
  exact ⟨_, rfl, rfl, (resolves_of_reached hoffers greeter_admitted.1 greeter_admitted.2 hkept
    hfuel (.inl rfl) hstart hload (by decide) hpath).1⟩

end Stencil.Render
