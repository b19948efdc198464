import Mathlib.Data.List.Forall2
import Stencil.Proofs.CoupledState

/-! Coupled runs find the same value for an expression. -/
namespace Stencil.Render.Coupling

open Value (hereditary_clean)

variable {c : Coupling} {α β γ δ : Type} {Q : α → Prop} {V : α → β → Prop}

/-- Code that is started from running code ends alike in both runs. -/
structure Calling (c : Coupling) (k k' : Calls) : Prop where
  eval : ∀ {t : Template} {e : Expr} (pos : Position), t.Within c.policy.admits →
    c.policy.Covers e.parts → c.Agree c.policy.Clean (k.eval t pos e) (k'.eval t pos e)
  exec : ∀ {t : Template} {body : List Instr}, t.Within c.policy.admits →
    c.policy.Covers (Instr.partsAll body) →
    c.Agree (fun r => c.policy.Text r.2) (k.exec t body) (k'.exec t body)
  render : ∀ {t : Template}, t.Within c.policy.admits →
    c.Agree c.policy.Text (k.render t) (k'.render t)
  load : ∀ {t : Template} {path : Expr} (pos : Position), t.Within c.policy.admits →
    c.policy.Covers path.parts →
    c.Agree (Module.Within c.policy.admits) (k.load t path pos) (k'.load t path pos)

lemma agree_fail {e : RenderError} (h : c.Stops (.error e)) : c.Agree Q (fail e) (fail e) :=
  agree_throw h

lemma Lockstep.ite {p : Prop} [Decidable p] {x x' : RenderM α} {y y' : RenderM β}
    (hp : p → c.Lockstep V x y) (hn : ¬p → c.Lockstep V x' y') :
    c.Lockstep V (if p then x else x') (if p then y else y') := by
  by_cases h : p
  · rw [if_pos h, if_pos h]
    exact hp h
  · rw [if_neg h, if_neg h]
    exact hn h

/-- A check that fails alike in both runs. -/
lemma Lockstep.guard {p : Prop} [Decidable p] {e : RenderError} {f : Unit → RenderM α}
    {g : Unit → RenderM β} (h : c.Stops (.error e)) (hf : c.Lockstep V (f ()) (g ())) :
    c.Lockstep V (if p then fail e >>= f else f ()) (if p then fail e >>= g else g ()) :=
  Lockstep.ite (fun _ => Agree.bind (Q := fun _ => False) (agree_fail h) fun _ => False.elim)
    fun _ => hf

lemma agree_typed {r : Except Fault α} (pos : Position) (h : ∀ a, r = .ok a → Q a) :
    c.Agree Q (typed pos r) (typed pos r) := by
  cases r with
  | ok a => exact Agree.pure (h a rfl)
  | error fault => exact agree_fail trivial

lemma agree_leftover (flow : Flow) : c.Agree (fun _ => True) (leftover flow) (leftover flow) := by
  cases flow with
  | normal => exact Agree.pure trivial
  | exitLoop pos | nextItem pos => exact agree_fail trivial

lemma lockstep_here : c.Lockstep c.Links here here :=
  Lockstep.bind Lockstep.get fun _ _ h => Lockstep.pure h.here

/-! ### Filters and tests -/

lemma agree_applyFilter {name : String} {v : Value} {args : List Value} (pos : Position)
    (hname : c.policy.admits (.filter name)) (hv : c.policy.Clean v)
    (hargs : ∀ a ∈ args, c.policy.Clean a) :
    c.Agree c.policy.Clean (applyFilter c.env name v args pos)
      (applyFilter c.env' name v args pos) := by
  unfold applyFilter
  rw [← c.registry]
  cases hf : c.env.engine.registry.filter? name with
  | none =>
    refine agree_fail ⟨hname, ?_⟩
    rw [Registry.hasFilter, hf]
    rfl
  | some f =>
    cases hw : f.apply v args with
    | ok w =>
      simp only [hw]
      exact Agree.pure (c.filter hname hf hv hargs hw)
    | error fault =>
      simp only [hw]
      exact agree_fail trivial

lemma agree_applyTest {name : String} (v : Value) (args : List Value) (pos : Position)
    (hname : c.policy.admits (.test name)) :
    c.Agree (fun _ => True) (applyTest c.env name v args pos)
      (applyTest c.env' name v args pos) := by
  unfold applyTest
  rw [← c.registry]
  cases hf : c.env.engine.registry.test? name with
  | none =>
    refine agree_fail ⟨hname, ?_⟩
    rw [Registry.hasTest, hf]
    rfl
  | some test =>
    cases hw : test v args with
    | ok passed =>
      simp only [hw]
      exact Agree.pure trivial
    | error fault =>
      simp only [hw]
      exact agree_fail trivial

/-! ### Macros -/

variable {k k' : Calls} {t : Template}

lemma agree_bindParams (hk : c.Calling k k') (ht : t.Within c.policy.admits) (pos : Position)
    {params : List Param} {args : List Value} (hp : c.policy.Covers (params.flatMap Param.parts))
    (hargs : ∀ a ∈ args, c.policy.Clean a) :
    c.Agree (fun _ => True) (bindParams k t pos params args) (bindParams k' t pos params args) := by
  induction params generalizing args with
  | nil => exact Agree.pure trivial
  | cons p params ih =>
    rw [List.flatMap_cons, Policy.covers_append] at hp
    cases args with
    | cons v args =>
      obtain ⟨hv, hargs⟩ := List.forall_mem_cons.mp hargs
      exact Agree.bind (agree_setLocal hv) fun _ _ => ih hp.2 hargs
    | nil =>
      have hbind : ∀ v, c.policy.Clean v → c.Agree (fun _ => True)
          (setLocal p.name v >>= fun _ => bindParams k t pos params [])
          (setLocal p.name v >>= fun _ => bindParams k' t pos params []) :=
        fun v hv => Agree.bind (agree_setLocal hv) fun _ _ => ih hp.2 hargs
      unfold bindParams
      cases hd : p.default with
      | none => exact Agree.bind (Agree.pure Value.clean_undefined) hbind
      | some e =>
        have he := hp.1
        rw [Param.parts, hd] at he
        exact Agree.bind (hk.eval pos ht he) hbind

/-- The code of a macro, in the scope that is opened for it. -/
lemma agree_macroBody (hk : c.Calling k k') (ht : t.Within c.policy.admits) {m : MacroDef}
    (hm : c.policy.Covers m.parts) {args : List Value} (hargs : ∀ a ∈ args, c.policy.Clean a)
    (pos : Position) :
    c.Agree c.policy.Text
      (do
        bindParams k t pos m.params args
        let (flow, output) ← k.exec t m.body
        leftover flow
        return output)
      (do
        bindParams k' t pos m.params args
        let (flow, output) ← k'.exec t m.body
        leftover flow
        return output) := by
  obtain ⟨hparams, hbody⟩ := Policy.covers_append.mp hm
  refine Agree.bind (agree_bindParams hk ht pos hparams hargs) fun _ _ => ?_
  refine Agree.bind (hk.exec ht hbody) fun r hr => ?_
  exact Agree.bind (agree_leftover r.1) fun _ _ => Agree.pure hr

lemma agree_runMacro (hk : c.Calling k k') (ht : t.Within c.policy.admits) {m : MacroDef}
    (hm : c.policy.Covers m.parts) {args : List Value} (hargs : ∀ a ∈ args, c.policy.Clean a)
    (pos : Position) :
    c.Agree c.policy.Clean (runMacro k t m args pos) (runMacro k' t m args pos) := by
  unfold runMacro
  refine Agree.bind (Lockstep.update ?_ fun s => Nat.le_refl _) fun _ _ => ?_
  · intro s s' h
    exact { h with macroDepth := congrArg (· + 1) h.macroDepth }
  refine Agree.bind ((agree_macroBody hk ht hm hargs pos).inScope .isolated) fun output ho => ?_
  refine Agree.bind (Lockstep.update ?_ fun s => Nat.le_refl _) fun _ _ => ?_
  · intro s s' h
    exact { h with macroDepth := congrArg (· - 1) h.macroDepth }
  exact Agree.pure (Value.clean_safe.mpr ho)

lemma agree_callMacro (hk : c.Calling k k') (ht : t.Within c.policy.admits) {m : MacroDef}
    (hm : c.policy.Covers m.parts) {args : List Value} (hargs : ∀ a ∈ args, c.policy.Clean a)
    {caller caller' : Option Caller} (hcaller : Option.Rel c.Callers caller caller')
    (pos : Position) :
    c.Agree c.policy.Clean (callMacro c.env k t m args caller pos)
      (callMacro c.env' k' t m args caller' pos) := by
  unfold callMacro
  refine Lockstep.guard trivial (Lockstep.bind Lockstep.get fun s s' h => ?_)
  rw [← c.maxDepth, ← h.macroDepth]
  refine Lockstep.guard trivial ?_
  cases hcaller with
  | none => exact agree_runMacro hk ht hm hargs pos
  | some hcaller =>
    refine Agree.bind (Lockstep.update ?_ fun s => Nat.le_refl _) fun _ _ => ?_
    · intro s s' h
      exact { h with callers := .cons hcaller h.callers }
    refine Agree.bind (agree_runMacro hk ht hm hargs pos) fun v hv => ?_
    refine Agree.bind (Lockstep.update ?_ fun s => Nat.le_refl _) fun _ _ => Agree.pure hv
    intro s s' h
    have hrest := List.forall₂_drop 1 h.callers
    rw [List.drop_one, List.drop_one] at hrest
    exact { h with callers := hrest }

/-- The body of a call block runs in the scope in which it was written. -/
lemma agree_placeCaller (hk : c.Calling k k') {caller caller' : Caller}
    (h : c.Callers caller caller') :
    c.Agree c.policy.Text
      (inScope caller.scope <| withImports caller.imports do
        let (flow, output) ← k.exec caller.template caller.body
        leftover flow
        return output)
      (inScope caller'.scope <| withImports caller'.imports do
        let (flow, output) ← k'.exec caller'.template caller'.body
        leftover flow
        return output) := by
  rw [← h.imports, ← h.template, ← h.body]
  refine Lockstep.inScope (Lockstep.withImports ?_ h.modules) h.scope
  refine Agree.bind (hk.exec h.within h.covers) fun r hr => ?_
  exact Agree.bind (agree_leftover r.1) fun _ _ => Agree.pure hr

lemma agree_callCaller (hk : c.Calling k k') (args : List Value) (pos : Position) :
    c.Agree c.policy.Clean (callCaller k args pos) (callCaller k' args pos) := by
  unfold callCaller
  refine Lockstep.bind Lockstep.get fun s s' h => ?_
  generalize s.callers = callers, s'.callers = callers', h.callers = hcallers
  cases hcallers with
  | nil => exact agree_fail trivial
  | cons hcaller hrest =>
    refine Lockstep.guard trivial ?_
    refine Agree.bind (Lockstep.update ?_ fun s => Nat.le_refl _) fun _ _ => ?_
    · intro s s' h
      exact { h with callers := hrest }
    refine Agree.bind (agree_placeCaller hk hcaller) fun output ho => ?_
    refine Agree.bind (Lockstep.update ?_ fun s => Nat.le_refl _) fun _ _ => ?_
    · intro s s' h
      exact { h with callers := .cons hcaller hrest }
    exact Agree.pure (Value.clean_safe.mpr ho)

lemma agree_callName (hk : c.Calling k k') (ht : t.Within c.policy.admits) (name : String)
    {args : List Value} (hargs : ∀ a ∈ args, c.policy.Clean a) {caller caller' : Option Caller}
    (hcaller : Option.Rel c.Callers caller caller') (pos : Position) :
    c.Agree c.policy.Clean (callName c.env k t name args caller pos)
      (callName c.env' k' t name args caller' pos) := by
  unfold callName
  cases hm : Dict.get? t.macros name with
  | some m => exact agree_callMacro hk ht (ht.macroDef hm) hargs hcaller pos
  | none =>
    simp only
    split
    · exact agree_callCaller hk args pos
    · exact agree_typed pos fun _ => hereditary_clean.range
    · exact agree_typed pos fun _ => hereditary_clean.pairs hargs
    · exact agree_fail trivial

/-- The same name is an alias in both runs. -/
lemma agree_aliased (base : Expr) :
    c.Agree (fun r => ∀ m ∈ r, m.2.Within c.policy.admits) (aliased c.env base)
      (aliased c.env' base) := by
  unfold aliased
  cases base with
  | var name =>
    refine Agree.bind (agree_lookup name) fun v _ => Lockstep.ite (fun _ => ?_) fun _ => ?_
    · refine Lockstep.bind Lockstep.get fun s s' h => ?_
      rw [← h.imports]
      refine Agree.pure fun m hm => ?_
      obtain ⟨module, hmodule, rfl⟩ := Option.map_eq_some_iff.mp hm
      exact h.modules _ (Dict.mem_of_get? hmodule)
    · exact Agree.pure fun _ hm => by cases hm
  | _ => exact Agree.pure fun _ hm => by cases hm

lemma agree_mapView_map {entries : Dict Value} (h : c.policy.Clean (.map entries))
    (method : String) (pos : Position) :
    c.Agree c.policy.Clean (mapView (.map entries) method pos)
      (mapView (.map entries) method pos) := by
  simp only [mapView]
  split
  · exact Agree.pure (hereditary_clean.entryPairs h)
  · exact Agree.pure (hereditary_clean.strs _)
  · refine Agree.pure (Value.clean_list.mpr fun v hv => ?_)
    obtain ⟨e, he, rfl⟩ := List.mem_map.mp hv
    exact Value.clean_map.mp h e he
  · exact agree_fail trivial

lemma agree_mapView {target : Value} (h : c.policy.Clean target) (method : String)
    (pos : Position) :
    c.Agree c.policy.Clean (mapView target method pos) (mapView target method pos) := by
  cases target with
  | map entries => exact agree_mapView_map h method pos
  | undefined | null => exact agree_mapView_map clean_no_variables method pos
  | _ => exact agree_fail trivial

lemma agree_callMember (hk : c.Calling k k') {module : Option (String × Module)}
    (hmodule : ∀ m ∈ module, m.2.Within c.policy.admits) {base base' : RenderM Value}
    (hbase : c.Agree c.policy.Clean base base') (member : String)
    {args args' : RenderM (List Value)}
    (hargs : c.Agree (fun args => ∀ a ∈ args, c.policy.Clean a) args args') (given : Nat)
    {caller caller' : Option Caller} (hcaller : Option.Rel c.Callers caller caller')
    (pos : Position) :
    c.Agree c.policy.Clean (callMember c.env k module base member args given caller pos)
      (callMember c.env' k' module base' member args' given caller' pos) := by
  unfold callMember
  cases module with
  | some aliased =>
    have hwithin := hmodule _ rfl
    simp only
    cases hm : Dict.get? aliased.2.template.macros member with
    | none => exact agree_fail trivial
    | some m =>
      refine Agree.bind hargs fun args hargs => Lockstep.withImports ?_ hwithin.imports
      exact agree_callMacro hk hwithin.template (hwithin.template.macroDef hm) hargs hcaller pos
  | none =>
    refine Agree.bind hbase fun target htarget => ?_
    exact Lockstep.guard trivial (agree_mapView htarget member pos)

/-! ### Expressions -/

mutual

theorem agree_eval (hk : c.Calling k k') (ht : t.Within c.policy.admits) (pos : Position)
    (e : Expr) (he : c.policy.Covers e.parts) :
    c.Agree c.policy.Clean (eval c.env k t pos e) (eval c.env' k' t pos e) := by
  cases e with
  | lit value =>
    rw [eval, eval]
    exact Agree.pure (hereditary_clean.literal value)
  | var name =>
    rw [eval, eval]
    exact agree_lookup name
  | list items =>
    rw [eval, eval]
    rw [Expr.parts] at he
    refine Agree.bind (agree_evalAll hk ht pos items he) fun vs hvs => ?_
    exact Agree.pure (Value.clean_list.mpr hvs)
  | dict entries =>
    rw [eval, eval]
    rw [Expr.parts] at he
    refine Agree.bind (agree_evalEntries hk ht pos [] clean_no_variables entries he) fun d hd => ?_
    exact Agree.pure hd
  | item base key =>
    rw [eval, eval]
    rw [Expr.parts, Policy.covers_append] at he
    refine Agree.bind (agree_eval hk ht pos base he.1) fun v hv => ?_
    refine Agree.bind (agree_eval hk ht pos key he.2) fun _ _ => ?_
    exact Agree.pure (hereditary_clean.item hv)
  | binary op left right =>
    rw [Expr.parts, Policy.covers_append] at he
    have hleft := agree_eval hk ht pos left he.1
    have hright := agree_eval hk ht pos right he.2
    -- The logical operators may leave out the second operand, in both runs alike.
    by_cases hand : op = .and
    · subst hand
      rw [eval, eval]
      exact Agree.bind hleft fun a ha => Lockstep.ite (fun _ => hright) fun _ => Agree.pure ha
    by_cases hor : op = .or
    · subst hor
      rw [eval, eval]
      exact Agree.bind hleft fun a ha => Lockstep.ite (fun _ => Agree.pure ha) fun _ => hright
    rw [eval, eval]
    · refine Agree.bind hleft fun a ha => Agree.bind hright fun b hb => ?_
      exact agree_typed pos fun v hv => BinaryOp.clean_apply c.policy.text_append ha hb hv
    all_goals assumption
  | unary op operand =>
    rw [Expr.parts] at he
    have hoperand := agree_eval hk ht pos operand he
    cases op with
    | not =>
      rw [eval, eval]
      exact Agree.bind hoperand fun a _ => Agree.pure (Value.clean_bool _)
    | neg =>
      rw [eval, eval]
      refine Agree.bind hoperand fun a _ => agree_typed pos fun v hv => ?_
      exact hereditary_clean.of_isNumber (Value.isNumber_neg hv)
  | filter base name args =>
    rw [eval, eval]
    rw [Expr.parts, List.cons_append, Policy.covers_cons, Policy.covers_append] at he
    refine Agree.bind (agree_eval hk ht pos base he.2.1) fun v hv => ?_
    refine Agree.bind (agree_evalAll hk ht pos args he.2.2) fun vs hvs => ?_
    exact agree_applyFilter pos he.1 hv hvs
  | test base name args negated =>
    rw [eval, eval]
    rw [Expr.parts, List.cons_append, Policy.covers_cons, Policy.covers_append] at he
    refine Agree.bind (agree_eval hk ht pos base he.2.1) fun v _ => ?_
    refine Agree.bind (agree_evalAll hk ht pos args he.2.2) fun vs _ => ?_
    exact Agree.bind (agree_applyTest v vs pos he.1) fun _ _ => Agree.pure (Value.clean_bool _)
  | call name args =>
    rw [eval, eval]
    rw [Expr.parts] at he
    refine Agree.bind (agree_evalAll hk ht pos args he) fun vs hvs => ?_
    exact agree_callName hk ht name hvs .none pos
  | callMember base member args =>
    rw [eval, eval]
    rw [Expr.parts, Policy.covers_append] at he
    refine Agree.bind (agree_aliased base) fun module hmodule => ?_
    exact agree_callMember hk hmodule (agree_eval hk ht pos base he.1) member
      (agree_evalAll hk ht pos args he.2) args.length .none pos
  | choice value condition otherwise =>
    rw [eval, eval]
    rw [Expr.parts, Policy.covers_append, Policy.covers_append] at he
    refine Agree.bind (agree_eval hk ht pos condition he.1.2) fun _ _ => ?_
    exact Lockstep.ite (fun _ => agree_eval hk ht pos value he.1.1)
      fun _ => agree_evalOption hk ht pos otherwise he.2

theorem agree_evalAll (hk : c.Calling k k') (ht : t.Within c.policy.admits) (pos : Position)
    (items : List Expr) (he : c.policy.Covers (Expr.partsAll items)) :
    c.Agree (fun vs => ∀ v ∈ vs, c.policy.Clean v) (evalAll c.env k t pos items)
      (evalAll c.env' k' t pos items) := by
  cases items with
  | nil =>
    rw [evalAll, evalAll]
    exact Agree.pure (List.forall_mem_nil _)
  | cons e more =>
    rw [evalAll, evalAll]
    rw [Expr.partsAll, Policy.covers_append] at he
    refine Agree.bind (agree_eval hk ht pos e he.1) fun v hv => ?_
    refine Agree.bind (agree_evalAll hk ht pos more he.2) fun vs hvs => ?_
    exact Agree.pure (List.forall_mem_cons.mpr ⟨hv, hvs⟩)

theorem agree_evalEntries (hk : c.Calling k k') (ht : t.Within c.policy.admits) (pos : Position)
    (d : Dict Value) (hd : c.policy.Clean (.map d))
    (entries : List (Expr × Expr)) (he : c.policy.Covers (Expr.partsEntries entries)) :
    c.Agree (fun d => c.policy.Clean (.map d)) (evalEntries c.env k t pos d entries)
      (evalEntries c.env' k' t pos d entries) := by
  cases entries with
  | nil =>
    rw [evalEntries, evalEntries]
    exact Agree.pure hd
  | cons entry more =>
    obtain ⟨key, value⟩ := entry
    rw [evalEntries, evalEntries]
    rw [Expr.partsEntries, Policy.covers_append, Policy.covers_append] at he
    refine Agree.bind (agree_eval hk ht pos key he.1.1) fun kv _ => ?_
    refine Agree.bind (agree_eval hk ht pos value he.1.2) fun v hv => ?_
    exact agree_evalEntries hk ht pos _ (hereditary_clean.insert hd hv) more he.2

theorem agree_evalOption (hk : c.Calling k k') (ht : t.Within c.policy.admits) (pos : Position)
    (e : Option Expr) (he : c.policy.Covers (Expr.partsOption e)) :
    c.Agree c.policy.Clean (evalOption c.env k t pos e) (evalOption c.env' k' t pos e) := by
  cases e with
  | none =>
    rw [evalOption, evalOption]
    exact Agree.pure Value.clean_undefined
  | some e =>
    rw [evalOption, evalOption]
    exact agree_eval hk ht pos e he

end

end Stencil.Render.Coupling
