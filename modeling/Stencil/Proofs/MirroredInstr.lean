import Stencil.Proofs.MirroredExpr

/-! Instructions and whole chains of templates in mirrored runs end alike, so that the evaluator
and the reference do. -/
namespace Stencil.Render.World

variable {W : World} {c : Scene} {n : Nat} {k : Calls} {k' : List Template → Calls} {t : Template}

/-! ### Other templates -/

lemma mirrors_evalPath (hk : W.Serves n k k') (hc : W.Valid c) (ht : W.admits t)
    (hn : W.effort c ≤ n) (path : Expr) (pos : Position) :
    W.Mirrors c (fun _ => True) (evalPath W.env k t path pos)
      (evalPath W.env (k' c.derived) t path pos) := by
  unfold evalPath
  refine Steps.bind (mirrors_eval hk hc ht hn pos path) fun v _ => ?_
  cases v.text? with
  | none => exact Steps.fail
  | some s => exact Steps.pure trivial

lemma mirrors_fetch (path : String) :
    W.Mirrors c (fun r => ∀ l, r = .ok l → W.admits l.template)
      (liftM (W.env.engine.fetch path)) (liftM (W.env.engine.fetch path)) := by
  intro s s' σ hs hm hσ
  obtain ⟨htemplate, hkept⟩ := W.fetch path hσ
  exact .ok htemplate hs hm hkept

/-- Entering a template leaves fewer that can still be entered. -/
lemma steps_enter (path : String) (pos : Position) :
    W.Steps (W.Holds c) (W.Holds (c.entered path))
      (fun t => W.admits t ∧ c.active.length < W.maxDepth)
      (enter W.env path pos) (enter W.env path pos) := by
  unfold enter
  refine Steps.get_bind ?_
  rintro s _ hs ⟨o, rfl⟩
  simp only [hs.active]
  refine Steps.guard fun _ => Steps.guard fun hlength => ?_
  refine Steps.bind (mirrors_fetch path) fun r hr => ?_
  cases r with
  | error e =>
    cases e with
    | load e | source e => exact Steps.fail
  | ok l =>
    refine Steps.modify_bind (W.Holds (c.entered path)) ?_ (fun _ o => ⟨o, rfl⟩) ?_
    · exact fun u hu => { hu with active := rfl }
    exact Steps.pure ⟨hr l rfl, Nat.lt_of_not_le hlength⟩

lemma steps_leave (path : String) :
    W.Steps (W.Holds (c.entered path)) (W.Holds c) (fun _ => True) leave leave := by
  refine Steps.update (fun s hs => { hs with active := congrArg List.tail hs.active }) ?_
  rintro s _ ⟨o, rfl⟩
  exact ⟨o, rfl⟩

/-- An included template runs without overrides; whatever it imports or overrides is undone. -/
lemma mirrors_includeTemplate (hk : W.Serves n k k') (hc : W.Valid c) (ht : W.admits t)
    (hn : W.effort c ≤ n) (path : Expr) (pos : Position) :
    W.Mirrors c (fun _ => True) (includeTemplate W.env k t path pos)
      (includeTemplate W.env (k' c.derived) t path pos) := by
  unfold includeTemplate
  refine Steps.bind (mirrors_evalPath hk hc ht hn path pos) fun path _ => ?_
  refine Steps.bind (steps_enter path pos) fun included hincluded => ?_
  have hvalid := (hc.entered path hincluded.2).included
  have hcost : W.effort (c.entered path).included + W.width + 2 ≤ n := by
    rw [effort_included]
    exact Nat.le_trans (effort_entered path hincluded.2) hn
  refine Steps.get_bind fun s s' hs hm => ?_
  refine Steps.modify_bind (W.Holds (c.entered path).included) ?_ (fun _ _ => ⟨[], rfl⟩) ?_
  · exact fun u hu => { hu with overrides := rfl, pin := nofun }
  refine Steps.bind mirrors_here fun l _ => ?_
  refine Steps.bind (Steps.inScope Holds.unscoped ?_ (hk.render _ hvalid hincluded.1 hcost) l)
    fun output _ => ?_
  · rintro u scopes current ⟨o, hu⟩
    exact ⟨o, Holds.unscoped scopes current hu⟩
  refine Steps.bind (M := W.Holds (c.entered path)) (Steps.update ?_ ?_) fun _ _ => ?_
  · rintro u ⟨o, hu⟩
    exact { hu with imports := hs.imports, overrides := hs.overrides, pin := hs.pin }
  · rintro u _ ⟨o, rfl⟩
    obtain ⟨o', rfl⟩ := hm
    exact ⟨o', rfl⟩
  exact Steps.bind (steps_leave path) fun _ _ => Steps.pure trivial

lemma mirrors_importTemplate (hk : W.Serves n k k') (hc : W.Valid c) (ht : W.admits t)
    (hn : W.effort c + 1 ≤ n) (path : Expr) {asName : String} (hspares : ∀ p ∈ c.pin, p.1 ≠ asName)
    (pos : Position) :
    W.Mirrors c (fun _ => True) (importTemplate k t path asName pos)
      (importTemplate (k' c.derived) t path asName pos) := by
  refine Steps.bind (hk.load hc ht hn path pos) fun m hm => Steps.update (fun s hs => ?_) ?_
  · exact { hs with
      imports := Dict.forall_mem_insert hm hs.imports
      pin := fun p hp => by rw [Dict.get?_insert, if_neg (hspares p hp), hs.pin p hp] }
  · rintro s _ ⟨o, rfl⟩
    exact ⟨o, rfl⟩

/-- The owner that the overrides name is the definer of the chain. -/
lemma mirrors_placeBlock (hk : W.Serves n k k') (hc : W.Valid c) (ht : W.admits t) {r : Nat}
    {name : String} (hcode : Code c t r [name] []) (hn : W.effort c + r + 1 ≤ n) :
    W.Mirrors c (fun _ => True) (placeBlock k t name)
      (placeFirst c.derived (k' c.derived) t name) := by
  refine Steps.get_left fun s hs => ?_
  have howner : (Dict.get? s.overrides name).getD t = definer c.derived t name := by
    rw [hs.overrides, hc.overrides, definer]
  simp only [howner, placeFirst]
  cases hbody : Dict.get? (definer c.derived t name).blocks name with
  | none => exact Steps.pure trivial
  | some body =>
    cases r with
    | zero => cases hcode.shallow
    | succ r => exact hk.exec hc (hc.definer ht name) (hcode.block hc ht hbody) hn

/-! ### Instructions -/

lemma mirrors_evalBindings (hk : W.Serves n k k') (hc : W.Valid c) (ht : W.admits t)
    (hn : W.effort c ≤ n) (pos : Position) (bindings : List (String × Expr)) :
    W.Mirrors c (fun _ => True) (evalBindings W.env k t pos bindings)
      (evalBindings W.env (k' c.derived) t pos bindings) := by
  induction bindings with
  | nil => exact Steps.pure trivial
  | cons b more ih =>
    refine Steps.bind (mirrors_eval hk hc ht hn pos b.2) fun v _ => ?_
    exact Steps.bind ih fun vars _ => Steps.pure trivial

lemma mirrors_applyFilters (hk : W.Serves n k k') (hc : W.Valid c) (ht : W.admits t)
    (hn : W.effort c ≤ n) (pos : Position) (filters : List FilterCall) (v : Value) :
    W.Mirrors c (fun _ => True) (applyFilters W.env k t pos filters v)
      (applyFilters W.env (k' c.derived) t pos filters v) := by
  induction filters generalizing v with
  | nil => exact Steps.pure trivial
  | cons f more ih =>
    refine Steps.bind (mirrors_evalAll hk hc ht hn pos f.args) fun args _ => ?_
    exact Steps.bind (mirrors_applyFilter W.env f.name v args pos) fun w _ => ih w

lemma mirrors_callCallee (hk : W.Serves n k k') (hc : W.Valid c) (ht : W.admits t)
    (hn : W.effort c ≤ n) (callee : Callee) (args : List Expr) {caller : Caller}
    (hcaller : W.Places caller) (pos : Position) :
    W.Mirrors c (fun _ => True) (callCallee W.env k t callee args caller pos)
      (callCallee W.env (k' c.derived) t callee args caller pos) := by
  have hsome : ∀ k ∈ some caller, W.Places k := by
    rintro _ ⟨⟩
    exact hcaller
  cases callee with
  | name name =>
    refine Steps.bind (mirrors_evalAll hk hc ht hn pos args) fun vs _ => ?_
    exact mirrors_callName hk hc ht hn name vs hsome pos
  | member base member =>
    refine Steps.bind (mirrors_aliased base) fun module hmodule => ?_
    exact mirrors_callMember hk hc hn hmodule (mirrors_eval hk hc ht hn pos base) member
      (mirrors_evalAll hk hc ht hn pos args) args.length hsome pos

lemma mirrors_loop {body body' : RenderM (Flow × String)}
    (hbody : W.Mirrors c (fun _ => True) body body') (binding : Binding) (pos : Position)
    (length i : Nat) (output : String) (items : List Value) :
    W.Mirrors c (fun _ => True) (loop binding pos body length i output items)
      (loop binding pos body' length i output items) := by
  induction items generalizing i output with
  | nil => exact Steps.pure trivial
  | cons item more ih =>
    unfold loop
    refine Steps.bind mirrors_here fun l _ => ?_
    refine Steps.bind (Q := fun _ => True) (Mirrors.inScope ?_ l) fun r _ => ?_
    · refine Steps.bind (mirrors_typed pos _) fun vars _ => ?_
      refine Steps.bind (mirrors_setLocals vars) fun _ _ => ?_
      exact Steps.bind (mirrors_setLocal "loop" _) fun _ _ => hbody
    · obtain ⟨flow, written⟩ := r
      cases flow with
      | exitLoop pos => exact Steps.pure trivial
      | normal | nextItem pos => exact ih (i + 1) (output ++ written)

/-- The body of a call block is kept with the imports that it may use. -/
lemma mirrors_callBlock (hk : W.Serves n k k') (hc : W.Valid c) (ht : W.admits t)
    (hn : W.effort c ≤ n) (callee : Callee) (args : List Expr) {body : List Instr}
    (hown : ∀ b ∈ Instr.placedAll body, Dict.contains t.blocks b = true) (pos : Position) :
    W.Mirrors c (fun _ => True) (exec W.env k t (.callBlock callee args body pos))
      (exec W.env (k' c.derived) t (.callBlock callee args body pos)) := by
  rw [exec, exec]
  refine Steps.get_bind ?_
  rintro s _ hs ⟨o, rfl⟩
  refine Steps.bind (mirrors_callCallee hk hc ht hn callee args ⟨ht, hown, hs.imports⟩ pos)
    fun v _ => ?_
  exact Steps.bind (mirrors_printValue v) fun _ _ => Steps.pure trivial

lemma mirrors_assign (hk : W.Serves n k k') (hc : W.Valid c) (ht : W.admits t)
    (hn : W.effort c ≤ n) (name : String) (e : Expr) (pos : Position) :
    W.Mirrors c (fun _ => True) (exec W.env k t (.assign name e pos))
      (exec W.env (k' c.derived) t (.assign name e pos)) := by
  rw [exec, exec]
  refine Steps.bind (mirrors_eval hk hc ht hn pos e) fun v _ => ?_
  exact Steps.bind (mirrors_setLocal name v) fun _ _ => Steps.pure trivial

lemma mirrors_importing (hk : W.Serves n k k') (hc : W.Valid c) (ht : W.admits t)
    (hn : W.effort c + 1 ≤ n) (path : Expr) {asName : String}
    (hspares : ∀ p ∈ c.pin, p.1 ∉ [asName]) (pos : Position) :
    W.Mirrors c (fun _ => True) (exec W.env k t (.importing path asName pos))
      (exec W.env (k' c.derived) t (.importing path asName pos)) := by
  rw [exec, exec]
  have hname : ∀ p ∈ c.pin, p.1 ≠ asName := fun p hp h =>
    hspares p hp (List.mem_singleton.mpr h)
  exact Steps.bind (mirrors_importTemplate hk hc ht hn path hname pos) fun _ _ =>
    Steps.pure trivial

mutual

theorem mirrors_execBy (hk : W.Serves n k k') (hc : W.Valid c) (ht : W.admits t) {r : Nat}
    {place place' : String → RenderM (Flow × String)}
    (hplace : ∀ name, Code c t r [name] [] →
      W.Mirrors c (fun _ => True) (place name) (place' name))
    (hn : W.effort c + r + 1 ≤ n) (i : Instr) (hi : Code c t r i.placed i.aliases) :
    W.Mirrors c (fun _ => True) (execBy W.env k place t i)
      (execBy W.env (k' c.derived) place' t i) := by
  have hn' : W.effort c ≤ n := by omega
  cases i with
  | text content | exitLoop pos | nextItem pos => exact Steps.pure trivial
  | print e pos =>
    refine Steps.bind (mirrors_eval hk hc ht hn' pos e) fun v _ => ?_
    exact Steps.bind (mirrors_printValue v) fun _ _ => Steps.pure trivial
  | branch condition body otherwise pos =>
    rw [execBy, execBy]
    rw [Instr.placed, Instr.aliases] at hi
    refine Steps.bind (mirrors_eval hk hc ht hn' pos condition) fun v _ => ?_
    exact Steps.ite (mirrors_execAllBy hk hc ht hplace hn "" body hi.left)
      (mirrors_execAllBy hk hc ht hplace hn "" otherwise hi.right)
  | forEach binding iterable body otherwise pos =>
    rw [execBy, execBy]
    rw [Instr.placed, Instr.aliases] at hi
    refine Steps.bind (mirrors_eval hk hc ht hn' pos iterable) fun v _ => ?_
    refine Steps.bind (mirrors_typed pos _) fun items _ => ?_
    refine Steps.ite (mirrors_execAllBy hk hc ht hplace hn "" otherwise hi.right) ?_
    have hbody := mirrors_execAllBy hk hc ht hplace hn "" body hi.left
    exact Steps.bind (mirrors_loop hbody binding pos items.length 0 "" items) fun _ _ =>
      Steps.pure trivial
  | callBlock callee args body pos =>
    exact mirrors_callBlock hk hc ht hn' callee args hi.own pos
  | assign name e pos => exact mirrors_assign hk hc ht hn' name e pos
  | «scoped» bindings body pos =>
    rw [execBy, execBy]
    rw [Instr.placed, Instr.aliases] at hi
    refine Steps.bind (mirrors_evalBindings hk hc ht hn' pos bindings) fun vars _ => ?_
    refine Steps.bind mirrors_here fun l _ => Mirrors.inScope ?_ l
    exact Steps.bind (mirrors_setLocals vars) fun _ _ =>
      mirrors_execAllBy hk hc ht hplace hn "" body hi
  | block name =>
    rw [execBy, execBy]
    exact hplace name hi
  | including path pos =>
    exact Steps.bind (mirrors_includeTemplate hk hc ht hn' path pos) fun _ _ =>
      Steps.pure trivial
  | importing path asName pos =>
    exact mirrors_importing hk hc ht (by omega) path hi.spares pos
  | autoescape enabled body =>
    rw [execBy, execBy]
    rw [Instr.placed, Instr.aliases] at hi
    refine Steps.get_bind ?_
    rintro s _ - ⟨o, rfl⟩
    refine Steps.modify_bind (W.Holds c) ?_ (fun _ o => ⟨o, rfl⟩) ?_
    · exact fun u hu => { hu with }
    refine Steps.bind (mirrors_execAllBy hk hc ht hplace hn "" body hi) fun result _ => ?_
    refine Steps.modify_bind (W.Holds c) ?_ (fun _ o => ⟨o, rfl⟩) (Steps.pure trivial)
    · exact fun u hu => { hu with }
  | filtered filters body pos =>
    rw [execBy, execBy]
    rw [Instr.placed, Instr.aliases] at hi
    refine Steps.bind (mirrors_execAllBy hk hc ht hplace hn "" body hi) fun result _ => ?_
    refine Steps.bind (mirrors_applyFilters hk hc ht hn' pos filters _) fun v _ => ?_
    exact Steps.bind (mirrors_printValue v) fun _ _ => Steps.pure trivial

theorem mirrors_execAllBy (hk : W.Serves n k k') (hc : W.Valid c) (ht : W.admits t) {r : Nat}
    {place place' : String → RenderM (Flow × String)}
    (hplace : ∀ name, Code c t r [name] [] →
      W.Mirrors c (fun _ => True) (place name) (place' name))
    (hn : W.effort c + r + 1 ≤ n) (output : String) (body : List Instr)
    (hb : Code c t r (Instr.placedAll body) (Instr.aliasesAll body)) :
    W.Mirrors c (fun _ => True) (execAllBy W.env k place t output body)
      (execAllBy W.env (k' c.derived) place' t output body) := by
  cases body with
  | nil =>
    rw [execAllBy, execAllBy]
    exact Steps.pure trivial
  | cons i more =>
    rw [execAllBy, execAllBy]
    rw [Instr.placedAll, Instr.aliasesAll] at hb
    refine Steps.bind (mirrors_execBy hk hc ht hplace hn i hb.left) fun result _ => ?_
    obtain ⟨flow, written⟩ := result
    cases flow with
    | normal => exact mirrors_execAllBy hk hc ht hplace hn (output ++ written) more hb.right
    | exitLoop pos | nextItem pos => exact Steps.pure trivial

end

/-- Code that is run by the evaluator, and the same code with blocks from the chain. -/
theorem mirrors_execAll (hk : W.Serves n k k') (hc : W.Valid c) (ht : W.admits t) {r : Nat}
    (hn : W.effort c + r + 1 ≤ n) (body : List Instr)
    (hb : Code c t r (Instr.placedAll body) (Instr.aliasesAll body)) :
    W.Mirrors c (fun _ => True) (execAll W.env k t "" body)
      (execAllBy W.env (k' c.derived) (placeFirst c.derived (k' c.derived) t) t "" body) := by
  rw [← execAllBy_placeBlock]
  exact mirrors_execAllBy hk hc ht
    (fun name hname => mirrors_placeBlock hk hc ht hname hn) hn "" body hb

/-! ### Whole templates -/

lemma mirrors_setUp (hk : W.Serves n k k') (hc : W.Valid c) (ht : W.admits t)
    (hn : W.effort c + 1 ≤ n) (body : List Instr)
    (hspares : ∀ p ∈ c.pin, p.1 ∉ Instr.aliasesAll body) :
    W.Mirrors c (fun _ => True) (setUp W.env k t body)
      (setUp W.env (k' c.derived) t body) := by
  induction body with
  | nil => exact Steps.pure trivial
  | cons i more ih =>
    have hmore := ih fun p hp h => hspares p hp (List.mem_append_right _ h)
    cases i with
    | assign name e pos =>
      exact Steps.bind (mirrors_assign hk hc ht (Nat.le_of_succ_le hn) name e pos) fun _ _ => hmore
    | importing path asName pos =>
      have hname : ∀ p ∈ c.pin, p.1 ∉ [asName] := fun p hp h =>
        hspares p hp (List.mem_append_left _ h)
      exact Steps.bind (mirrors_importing hk hc ht hn path hname pos) fun _ _ => hmore
    | _ => exact hmore

lemma mirrors_loadImports (hk : W.Serves n k k') (hc : W.Valid c) (ht : W.admits t)
    (hn : W.effort c + 1 ≤ n) {imports : Dict Module} (hm : ∀ e ∈ imports, e.2.All W.admits)
    (body : List Instr) :
    W.Mirrors c (fun imports => ∀ e ∈ imports, Module.All W.admits e.2)
      (loadImports k t imports body) (loadImports (k' c.derived) t imports body) := by
  induction body generalizing imports with
  | nil => exact Steps.pure hm
  | cons i more ih =>
    cases i with
    | importing path asName pos =>
      refine Steps.bind (hk.load hc ht hn path pos) fun m hall => ?_
      exact ih (Dict.forall_mem_insert hall hm)
    | _ => exact ih hm

lemma mirrors_loadModule (hk : W.Serves n k k') (hc : W.Valid c) (ht : W.admits t)
    (hn : W.effort c ≤ n) (path : Expr) (pos : Position) :
    W.Mirrors c (Module.All W.admits) (loadModule W.env k t path pos)
      (loadModule W.env (k' c.derived) t path pos) := by
  unfold loadModule
  refine Steps.bind (mirrors_evalPath hk hc ht hn path pos) fun path _ => ?_
  refine Steps.bind (steps_enter path pos) fun imported himported => ?_
  have hcost := effort_entered (W := W) path himported.2
  refine Steps.bind (mirrors_loadImports hk (hc.entered path himported.2) himported.1 (by omega)
    (List.forall_mem_nil _) imported.body) fun imports himports => ?_
  exact Steps.bind (steps_leave path) fun _ _ =>
    Steps.pure (Module.all_mk.mpr ⟨himported.1, himports⟩)

end Stencil.Render.World
