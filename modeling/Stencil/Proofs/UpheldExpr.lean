import Stencil.Proofs.Regime

/-! Expressions keep to a regime: the code that they start does, and what they make of values hands
on their property. -/
namespace Stencil.Render.Regime

open Instr (confinedAll)

variable {env : Env} {c : Regime env} {k : Calls} {t : Template}

/-- Code that running code starts keeps to the regime, and outside of loops it ends normally. -/
structure Serves (c : Regime env) (k : Calls) : Prop where
  eval : ∀ {t : Template}, c.Fits t → ∀ pos e, c.Upholds c.value (k.eval t pos e)
  exec : ∀ {t : Template} {body : List Instr}, c.Fits t → c.Allows (confinedAll false body) →
    c.Upholds (fun r => c.looped → r.1 = .normal) (k.exec t body)
  render : ∀ {t : Template}, c.Fits t → c.Upholds (fun _ => True) (k.render t)
  load : ∀ {t : Template}, c.Fits t → ∀ path pos,
    c.Upholds (fun m => m.All c.Fits) (k.load t path pos)

/-! ### Macros and call blocks -/

lemma upholds_bindParams (hk : c.Serves k) (ht : c.Fits t) (pos : Position) (params : List Param)
    {args : List Value} (hargs : ∀ a ∈ args, c.value a) :
    c.Upholds (fun _ => True) (bindParams k t pos params args) := by
  induction params generalizing args with
  | nil => exact .pure trivial
  | cons p params ih =>
    cases args with
    | cons v args =>
      obtain ⟨hv, hmore⟩ := List.forall_mem_cons.mp hargs
      exact .bind (upholds_setLocal p.name hv) fun _ _ => ih hmore
    | nil =>
      have hstore : ∀ v, c.value v → c.Upholds (fun _ => True)
          (setLocal p.name v >>= fun _ => bindParams k t pos params []) :=
        fun v hv => .bind (upholds_setLocal p.name hv) fun _ _ => ih (List.forall_mem_nil _)
      unfold bindParams
      cases p.default with
      | none => exact .bind (.pure c.hereditary.undefined) hstore
      | some e => exact .bind (hk.eval ht pos e) hstore

/-- The code of a macro or of a call block, whose output is its result. -/
lemma upholds_output (hk : c.Serves k) (ht : c.Fits t) {body : List Instr}
    (hbody : c.Allows (confinedAll false body)) :
    c.Upholds (fun _ => True)
      (do
        let (flow, output) ← k.exec t body
        leftover flow
        return output) :=
  .bind (hk.exec ht hbody) fun _ hr => .bind (upholds_leftover hr) fun _ _ => .pure trivial

lemma upholds_runMacro (hk : c.Serves k) (ht : c.Fits t) {m : MacroDef}
    (hm : c.Allows (confinedAll false m.body)) {args : List Value}
    (hargs : ∀ a ∈ args, c.value a) (pos : Position) :
    c.Upholds c.value (runMacro k t m args pos) := by
  refine .modify_bind (fun s σ hs => { hs with }) ?_
  refine .bind (Q := fun _ => True) (.inScope ?_ .isolated) fun output _ => ?_
  · refine .bind (upholds_bindParams hk ht pos m.params hargs) fun _ _ => ?_
    exact upholds_output hk ht hm
  · exact .modify_bind (fun s σ hs => { hs with }) (.pure (c.safe output))

lemma upholds_callMacro (hk : c.Serves k) (ht : c.Fits t) {m : MacroDef}
    (hm : c.Allows (confinedAll false m.body)) {args : List Value}
    (hargs : ∀ a ∈ args, c.value a) {caller : Option Caller} (hcaller : ∀ w ∈ caller, c.Waits w)
    (pos : Position) : c.Upholds c.value (callMacro env k t m args caller pos) := by
  unfold callMacro
  refine .guard (.get_bind fun _ _ _ => .guard ?_)
  cases caller with
  | none => exact upholds_runMacro hk ht hm hargs pos
  | some w =>
    refine .modify_bind (fun s σ hs => ?_)
      (.bind (upholds_runMacro hk ht hm hargs pos) fun v hv => ?_)
    · exact { hs with callers := List.forall_mem_cons.mpr ⟨hcaller w rfl, hs.callers⟩ }
    · refine .modify_bind (fun s σ hs => ?_) (.pure hv)
      exact { hs with callers := fun w hw => hs.callers w (List.mem_of_mem_tail hw) }

lemma upholds_callCaller (hk : c.Serves k) (args : List Value) (pos : Position) :
    c.Upholds c.value (callCaller k args pos) := by
  unfold callCaller
  refine .get_bind fun s σ hs => ?_
  cases hcallers : s.callers with
  | nil => exact .fail
  | cons w callers =>
    have hwaiting := hs.callers
    rw [hcallers] at hwaiting
    obtain ⟨hw, hrest⟩ := List.forall_mem_cons.mp hwaiting
    refine .guard (.modify_bind (fun s σ hs => { hs with callers := hrest }) ?_)
    refine .bind (Q := fun _ => True) (.inScope (.withImports ?_ hw.imports) w.scope)
      fun output _ => ?_
    · exact upholds_output hk hw.template hw.body
    · exact .modify_bind (fun s σ hs => { hs with callers := hwaiting }) (.pure (c.safe output))

lemma upholds_callName (hk : c.Serves k) (ht : c.Fits t) (name : String) {args : List Value}
    (hargs : ∀ a ∈ args, c.value a) {caller : Option Caller} (hcaller : ∀ w ∈ caller, c.Waits w)
    (pos : Position) : c.Upholds c.value (callName env k t name args caller pos) := by
  unfold callName
  cases hm : Dict.get? t.macros name with
  | some m => exact upholds_callMacro hk ht (ht.macroDef hm) hargs hcaller pos
  | none =>
    simp only
    split
    · exact upholds_callCaller hk args pos
    · exact upholds_typed (fun _ => c.hereditary.range) pos
    · exact upholds_typed (fun _ => c.hereditary.pairs hargs) pos
    · exact .fail

lemma upholds_callMember (hk : c.Serves k) {named : Option (String × Module)}
    (hnamed : ∀ x ∈ named, x.2.All c.Fits) {base : RenderM Value}
    (hbase : c.Upholds c.value base) (member : String) {args : RenderM (List Value)}
    (hargs : c.Upholds (fun vs => ∀ v ∈ vs, c.value v) args) (given : Nat)
    {caller : Option Caller} (hcaller : ∀ w ∈ caller, c.Waits w) (pos : Position) :
    c.Upholds c.value (callMember env k named base member args given caller pos) := by
  unfold callMember
  cases named with
  | none => exact .bind hbase fun v hv => .guard (upholds_mapView hv member pos)
  | some x =>
    have hmodule := hnamed x rfl
    simp only
    cases hm : Dict.get? x.2.template.macros member with
    | none => exact .fail
    | some m =>
      refine .bind hargs fun vs hvs => .withImports ?_ hmodule.imports
      exact upholds_callMacro hk hmodule.template (hmodule.template.macroDef hm) hvs hcaller pos

/-! ### Expressions -/

mutual

theorem upholds_eval (hk : c.Serves k) (ht : c.Fits t) (pos : Position) (e : Expr) :
    c.Upholds c.value (eval env k t pos e) := by
  cases e with
  | lit value =>
    rw [eval]
    exact .pure (c.hereditary.literal value)
  | var name =>
    rw [eval]
    exact upholds_lookup name
  | list items =>
    rw [eval]
    refine .bind (upholds_evalAll hk ht pos items) fun vs hvs => ?_
    exact .pure (c.hereditary.list.mpr hvs)
  | dict entries =>
    rw [eval]
    refine .bind (upholds_evalEntries hk ht pos c.hereditary.empty entries) fun d hd => ?_
    exact .pure hd
  | item base key =>
    rw [eval]
    refine .bind (upholds_eval hk ht pos base) fun v hv => ?_
    exact .bind (upholds_eval hk ht pos key) fun _ _ => .pure (c.hereditary.item hv)
  | binary op left right =>
    have hleft := upholds_eval hk ht pos left
    have hright := upholds_eval hk ht pos right
    by_cases hand : op = .and
    · subst hand
      rw [eval]
      exact .bind hleft fun _ ha => .ite hright (.pure ha)
    by_cases hor : op = .or
    · subst hor
      rw [eval]
      exact .bind hleft fun _ ha => .ite (.pure ha) hright
    rw [eval]
    · refine .bind hleft fun a ha => .bind hright fun b hb => upholds_typed (fun v hv => ?_) pos
      exact c.hereditary.binary (fun _ _ => c.safe _) ha hb hv
    all_goals assumption
  | unary op operand =>
    have hoperand := upholds_eval hk ht pos operand
    cases op with
    | not =>
      rw [eval]
      exact .bind hoperand fun _ _ => .pure (c.hereditary.bool _)
    | neg =>
      rw [eval]
      refine .bind hoperand fun a _ => upholds_typed (fun v hv => ?_) pos
      exact c.hereditary.of_isNumber (Value.isNumber_neg hv)
  | filter base name args =>
    rw [eval]
    refine .bind (upholds_eval hk ht pos base) fun v hv => ?_
    refine .bind (upholds_evalAll hk ht pos args) fun vs hvs => ?_
    exact upholds_applyFilter name hv hvs pos
  | test base name args negated =>
    rw [eval]
    refine .bind (upholds_eval hk ht pos base) fun v _ => ?_
    refine .bind (upholds_evalAll hk ht pos args) fun vs _ => ?_
    exact .bind (upholds_applyTest name v vs pos) fun _ _ => .pure (c.hereditary.bool _)
  | call name args =>
    rw [eval]
    refine .bind (upholds_evalAll hk ht pos args) fun vs hvs => ?_
    refine upholds_callName hk ht name hvs ?_ pos
    nofun
  | callMember base member args =>
    rw [eval]
    refine .bind (upholds_aliased base) fun named hnamed => ?_
    refine upholds_callMember hk hnamed (upholds_eval hk ht pos base) member
      (upholds_evalAll hk ht pos args) args.length ?_ pos
    nofun
  | choice value condition otherwise =>
    rw [eval]
    refine .bind (upholds_eval hk ht pos condition) fun _ _ => ?_
    exact .ite (upholds_eval hk ht pos value) (upholds_evalOption hk ht pos otherwise)

theorem upholds_evalAll (hk : c.Serves k) (ht : c.Fits t) (pos : Position) (items : List Expr) :
    c.Upholds (fun vs => ∀ v ∈ vs, c.value v) (evalAll env k t pos items) := by
  cases items with
  | nil =>
    rw [evalAll]
    exact .pure (List.forall_mem_nil _)
  | cons e more =>
    rw [evalAll]
    refine .bind (upholds_eval hk ht pos e) fun v hv => ?_
    refine .bind (upholds_evalAll hk ht pos more) fun vs hvs => .pure ?_
    exact List.forall_mem_cons.mpr ⟨hv, hvs⟩

theorem upholds_evalEntries (hk : c.Serves k) (ht : c.Fits t) (pos : Position) {d : Dict Value}
    (hd : c.value (.map d)) (entries : List (Expr × Expr)) :
    c.Upholds (fun d => c.value (.map d)) (evalEntries env k t pos d entries) := by
  cases entries with
  | nil =>
    rw [evalEntries]
    exact .pure hd
  | cons entry more =>
    obtain ⟨key, value⟩ := entry
    rw [evalEntries]
    refine .bind (upholds_eval hk ht pos key) fun _ _ => ?_
    refine .bind (upholds_eval hk ht pos value) fun v hv => ?_
    exact upholds_evalEntries hk ht pos (c.hereditary.insert hd hv) more

theorem upholds_evalOption (hk : c.Serves k) (ht : c.Fits t) (pos : Position) (e : Option Expr) :
    c.Upholds c.value (evalOption env k t pos e) := by
  cases e with
  | none =>
    rw [evalOption]
    exact .pure c.hereditary.undefined
  | some e =>
    rw [evalOption]
    exact upholds_eval hk ht pos e

end

lemma upholds_evalPath (hk : c.Serves k) (ht : c.Fits t) (path : Expr) (pos : Position) :
    c.Upholds (fun _ => True) (evalPath env k t path pos) := by
  refine .bind (upholds_eval hk ht pos path) fun v _ => ?_
  cases v.text? with
  | none => exact .fail
  | some s => exact .pure trivial

lemma upholds_evalBindings (hk : c.Serves k) (ht : c.Fits t) (pos : Position)
    (bindings : List (String × Expr)) :
    c.Upholds (fun vars => ∀ e ∈ vars, c.value e.2) (evalBindings env k t pos bindings) := by
  induction bindings with
  | nil => exact .pure (List.forall_mem_nil _)
  | cons b more ih =>
    refine .bind (upholds_eval hk ht pos b.2) fun v hv => .bind ih fun vars hvars => .pure ?_
    exact List.forall_mem_cons.mpr ⟨hv, hvars⟩

lemma upholds_applyFilters (hk : c.Serves k) (ht : c.Fits t) (pos : Position)
    (filters : List FilterCall) {v : Value} (hv : c.value v) :
    c.Upholds c.value (applyFilters env k t pos filters v) := by
  induction filters generalizing v with
  | nil => exact .pure hv
  | cons f more ih =>
    refine .bind (upholds_evalAll hk ht pos f.args) fun args hargs => ?_
    exact .bind (upholds_applyFilter f.name hv hargs pos) fun w hw => ih hw

lemma upholds_callCallee (hk : c.Serves k) (ht : c.Fits t) (callee : Callee) (args : List Expr)
    {caller : Caller} (hcaller : c.Waits caller) (pos : Position) :
    c.Upholds c.value (callCallee env k t callee args caller pos) := by
  have hsome : ∀ w ∈ some caller, c.Waits w := by
    rintro _ ⟨⟩
    exact hcaller
  cases callee with
  | name name =>
    refine .bind (upholds_evalAll hk ht pos args) fun vs hvs => ?_
    exact upholds_callName hk ht name hvs hsome pos
  | member base member =>
    refine .bind (upholds_aliased base) fun named hnamed => ?_
    exact upholds_callMember hk hnamed (upholds_eval hk ht pos base) member
      (upholds_evalAll hk ht pos args) args.length hsome pos

end Stencil.Render.Regime
