import Stencil.Proofs.ChainAliases
import Stencil.Proofs.FramedInstr

/-! What the code around some code can see of it afterwards. No variable, no change of escaping and
no template that it waited for is left of an expression, or of an instruction that stores no
variable itself. What included templates, call blocks and macros of imported templates import
stays with them; a macro of the running template imports into the imports of the code that calls
it. -/
namespace Stencil.Render

variable {env : Env} {n : Nat} {t : Template} {s u : State} {σ τ : Session}

/-- An expression ends well, or an instruction that stores no variable in the scope that it runs in:
one that prints, opens a scope, includes a template or has a call block, or a loop with items. -/
inductive Completes (env : Env) (n : Nat) (t : Template) (s : State) (σ : Session) (u : State)
    (τ : Session) : Prop where
  | expression {pos e v} (run : Yields (eval env (callsAt env n) t pos e) s σ v u τ)
  | print {e pos r} (run : Yields (exec env (callsAt env n) t (.print e pos)) s σ r u τ)
  | scoped {bindings body pos r}
      (run : Yields (exec env (callsAt env n) t (.scoped bindings body pos)) s σ r u τ)
  | including {path pos r}
      (run : Yields (exec env (callsAt env n) t (.including path pos)) s σ r u τ)
  | callBlock {callee args body pos r}
      (run : Yields (exec env (callsAt env n) t (.callBlock callee args body pos)) s σ r u τ)
  | loop {binding iterable body otherwise pos v s₁ σ₁ item items r}
      (value : Yields (eval env (callsAt env n) t pos iterable) s σ v s₁ σ₁)
      (filled : loopItems binding v = .ok (item :: items))
      (run : Yields (exec env (callsAt env n) t (.forEach binding iterable body otherwise pos))
        s σ r u τ)

lemma Yields.unique {α : Type} {x : RenderM α} {a b : α} {s' : State} {τ' : Session}
    (h : Yields x s σ a u τ) (h' : Yields x s σ b s' τ') : a = b ∧ u = s' ∧ τ = τ' := by
  cases h.symm.trans h'
  exact ⟨rfl, rfl, rfl⟩

lemma exists_yields {α β : Type} {x : RenderM α} {f : α → β} {b : β}
    (h : ((x.run s).run σ).1.toOption.map (fun r => f r.1) = some b) :
    ∃ a u τ, Yields x s σ a u τ ∧ f a = b := by
  rcases hx : (x.run s).run σ with ⟨e | ⟨a, u⟩, τ⟩
  · rw [hx] at h
    cases h
  · rw [hx] at h
    exact ⟨a, u, τ, hx, Option.some.inj h⟩

/-- A loop with items runs in scopes of its own; only `else` runs in the scope around it. -/
lemma restored_forEach {binding : Binding} {iterable : Expr} {body otherwise : List Instr}
    {pos : Position} {v : Value} {s₁ : State} {σ₁ : Session} {item : Value} {items : List Value}
    {r : Flow × String} (value : Yields (eval env (callsAt env n) t pos iterable) s σ v s₁ σ₁)
    (filled : loopItems binding v = .ok (item :: items))
    (run : Yields (exec env (callsAt env n) t (.forEach binding iterable body otherwise pos))
      s σ r u τ) :
    Restored False s u := by
  have hk := tidy_callsAt env n
  rw [exec] at run
  obtain ⟨v', s', σ', heval, hrest⟩ := run.of_bind
  obtain ⟨rfl, rfl, rfl⟩ := heval.unique value
  have hs : Restored False s s' := restored_eval hk calm_false pos iterable Restored.refl heval
  rw [filled] at hrest
  change Yields (loop binding pos (execAll env (callsAt env n) t "" body) (item :: items).length 0
    "" (item :: items) >>= fun output => pure (.normal, output)) s' σ' r u τ at hrest
  have hbody : ∀ s₂ : State, s₂.overrides = s'.overrides →
      Leads (Written False s₂) (execAll env (callsAt env n) t "" body) (Written False s₂) :=
    fun _ _ => written_execAll hk calm_false "" body False.elim
  have hloop := restored_loop hbody binding pos (item :: items).length 0 "" (item :: items)
  exact hs.trans (Leads.bind hloop (fun _ => Leads.pure) Restored.refl hrest)

/-- Nothing is left of what completes but imports: no scope, no variable in a scope that was there,
no change of escaping, of overrides, of the templates and call blocks that wait, or of the depth of
macros. So every variable has the value that it had. -/
theorem Completes.state_eq (h : Completes env n t s σ u τ) :
    u = { s with imports := u.imports } ∧
      ∀ root name, lookupFrom u.scopes root name u.here = lookupFrom s.scopes root name s.here := by
  have hk := tidy_callsAt env n
  have hrestored : Restored False s u := by
    cases h with
    | expression run => exact restored_eval hk calm_false _ _ Restored.refl run
    | print run => exact restored_print hk calm_false _ _ Restored.refl run
    | «scoped» run =>
      exact restored_scoped hk calm_false _
        (fun _ _ => written_execAll hk calm_false "" _ False.elim) _ Restored.refl run
    | including run => exact restored_including hk calm_false _ _ Restored.refl run
    | callBlock run => exact restored_callBlock hk calm_false _ _ _ _ Restored.refl run
    | loop value filled run => exact restored_forEach value filled run
  obtain ⟨imports, rfl, -⟩ := hrestored
  exact ⟨rfl, fun _ _ => rfl⟩

/-- Stores a variable of the code around it anew, changes the escaping, and ends in both. -/
def shadowing : Instr :=
  .forEach (.single "x") (.list [.lit (.str "a"), .lit (.str "b")])
    [.assign "y" (.var "x") .start,
     .autoescape true [.print (.var "y") .start, .exitLoop .start]]
    [] .start

/-- Inside a scope with `y`. -/
def shadowed : State where
  scopes := #[⟨[("y", .str "c")], .root⟩]
  current := some 0
  autoescape := false

theorem Completes.state_eq_shadowing :
    ∃ u τ, Yields (exec ⟨Engine.default, []⟩ (callsAt ⟨Engine.default, []⟩ 0) greetings shadowing)
        shadowed {} (.normal, "a") u τ ∧
      u = { shadowed with imports := u.imports } ∧
      ∀ root name, lookupFrom u.scopes root name u.here =
        lookupFrom shadowed.scopes root name shadowed.here := by
  have hvalue : Yields (eval ⟨Engine.default, []⟩ (callsAt ⟨Engine.default, []⟩ 0) greetings .start
      (.list [.lit (.str "a"), .lit (.str "b")])) shadowed {} (.list [.str "a", .str "b"])
      shadowed {} := rfl
  obtain ⟨_, u, τ, hrun, rfl⟩ := exists_yields (x := exec ⟨Engine.default, []⟩
    (callsAt ⟨Engine.default, []⟩ 0) greetings shadowing) (s := shadowed) (σ := {}) (f := id)
    (b := (.normal, "a")) (by decide +kernel)
  exact ⟨u, τ, hrun, Completes.state_eq (.loop hvalue rfl hrun)⟩

/-! ### Imports -/

/-- The imports are the same again behind `caller()`, behind a macro of an imported template once
its arguments are there, and behind an included template once its path is there. They are the same
behind all calls if neither the running template nor one that overrides blocks imports anything in
its macros and blocks: the macros of the running template run with the imports of the caller. -/
theorem imports_eq_of_yields (env : Env) (n : Nat) (t : Template) (s : State) (σ : Session) :
    (∀ args pos v u τ, Yields (callCaller (callsAt env n) args pos) s σ v u τ →
      u.imports = s.imports) ∧
    (∀ named base member args given caller pos v u τ,
      Yields (callMember env (callsAt env n) (some named) base member args given caller pos)
        s σ v u τ →
      ∃ vs s₁ σ₁, Yields args s σ vs s₁ σ₁ ∧ u.imports = s₁.imports) ∧
    (∀ path pos output u τ, Yields (includeTemplate env (callsAt env n) t path pos) s σ output u τ →
      ∃ name s₁ σ₁, Yields (evalPath env (callsAt env n) t path pos) s σ name s₁ σ₁ ∧
        u.imports = s₁.imports) ∧
    (t.Quiet → (∀ o ∈ s.overrides, o.2.Quiet) →
      (∀ pos e v u τ, Yields (eval env (callsAt env n) t pos e) s σ v u τ →
        u.imports = s.imports) ∧
      (∀ path pos r u τ, Yields (exec env (callsAt env n) t (.including path pos)) s σ r u τ →
        u.imports = s.imports) ∧
      ∀ callee args body pos r u τ,
        Yields (exec env (callsAt env n) t (.callBlock callee args body pos)) s σ r u τ →
        u.imports = s.imports) := by
  have hk := tidy_callsAt env n
  have hsame : ∀ {s u : State}, Restored True s u → u.imports = s.imports := by
    rintro s _ ⟨_, rfl, hi⟩
    exact hi trivial
  refine ⟨?_, ?_, ?_, fun ht howners => ?_⟩
  · intro args pos v u τ run
    exact hsame (restored_callCaller hk args pos Restored.refl run)
  · intro named base member args given caller pos v u τ run
    unfold callMember at run
    cases hm : Dict.get? named.2.template.macros member with
    | none =>
      simp only [hm] at run
      exact absurd run nofun
    | some m =>
      simp only [hm] at run
      obtain ⟨vs, s₁, σ₁, hargs, hcall⟩ := run.of_bind
      have hrestored : Restored True s₁ u := Leads.withImports (fun _ _ =>
        restored_callMacro hk calm_false False.elim vs caller pos) _ Restored.refl hcall
      exact ⟨vs, s₁, σ₁, hargs, hsame hrestored⟩
  · intro path pos output u τ run
    obtain ⟨name, s₁, σ₁, hpath, hplace⟩ := Yields.of_bind run
    exact ⟨name, s₁, σ₁, hpath, hsame (restored_place hk name pos Restored.refl hplace)⟩
  · have hcalm : Calm True t s.overrides := fun _ => ⟨ht, howners⟩
    refine ⟨fun pos e v u τ run => ?_, fun path pos r u τ run => ?_,
      fun callee args body pos r u τ run => ?_⟩
    · exact hsame (restored_eval hk hcalm pos e Restored.refl run)
    · exact hsame (restored_including hk hcalm path pos Restored.refl run)
    · exact hsame (restored_callBlock hk hcalm callee args body pos Restored.refl run)

/-- Imports and calls a macro. -/
def borrowing : List Instr :=
  [.importing (.lit (.str "a")) "m" .start, .print (.callMember (.var "m") "hi" []) .start]

/-- A template that does so at its top level and in a macro. -/
def borrower : Template where
  name := some "b"
  dialect := .jinja
  body := borrowing
  macros := [("borrow", ⟨"borrow", [], borrowing⟩)]
  blocks := []
  parent := none

def lendingEngine : Engine where
  config := { maxDepth := 2 }
  registry := Registry.builtin

def lendingSession : Session where
  cache := { entries := [("a", ⟨0, greetings⟩), ("b", ⟨1, borrower⟩)], order := ["a", "b"] }

/-- The borrower is imported, and a call block of it waits. -/
def lending : State where
  autoescape := false
  imports := [("b", .mk borrower [])]
  callers := [⟨borrowing, .root, borrower, []⟩]

theorem imports_eq_of_yields_lending :
    let env : Env := ⟨lendingEngine, []⟩
    let k := callsAt env 3
    (∃ v u τ, Yields (callCaller k [] .start) lending lendingSession v u τ ∧ v.display = "hi" ∧
      u.imports = lending.imports) ∧
    (∃ v u τ, Yields (eval env k greetings .start (.callMember (.var "b") "borrow" [])) lending
      lendingSession v u τ ∧ v.display = "hi" ∧ u.imports = lending.imports) ∧
    ∃ output u τ, Yields (includeTemplate env k greetings (.lit (.str "b")) .start) lending
      lendingSession output u τ ∧ output = "hi" ∧ u.imports = lending.imports := by
  intro env k
  obtain ⟨hcaller, -, hinclude, hquiet⟩ :=
    imports_eq_of_yields env 3 greetings lending lendingSession
  obtain ⟨heval, -, -⟩ := hquiet (by decide) nofun
  refine ⟨?_, ?_, ?_⟩
  · obtain ⟨v, u, τ, hrun, hv⟩ := exists_yields (x := callCaller k [] .start) (s := lending)
      (σ := lendingSession) (f := Value.display) (b := "hi") (by decide +kernel)
    exact ⟨v, u, τ, hrun, hv, hcaller _ _ _ _ _ hrun⟩
  · obtain ⟨v, u, τ, hrun, hv⟩ := exists_yields
      (x := eval env k greetings .start (.callMember (.var "b") "borrow" [])) (s := lending)
      (σ := lendingSession) (f := Value.display) (b := "hi") (by decide +kernel)
    exact ⟨v, u, τ, hrun, hv, heval _ _ _ _ _ hrun⟩
  · obtain ⟨output, u, τ, hrun, ho⟩ := exists_yields
      (x := includeTemplate env k greetings (.lit (.str "b")) .start) (s := lending)
      (σ := lendingSession) (f := id) (b := "hi") (by decide +kernel)
    obtain ⟨name, s₁, σ₁, hpath, himports⟩ := hinclude _ _ _ _ _ hrun
    have hliteral : Yields (evalPath env k greetings (.lit (.str "b")) .start) lending
        lendingSession "b" lending lendingSession := rfl
    obtain ⟨-, rfl, -⟩ := hpath.unique hliteral
    exact ⟨output, u, τ, hrun, ho, himports⟩

/-- A macro of the running template leaves its import to the code that calls it. -/
example :
    let k := callsAt ⟨lendingEngine, []⟩ 3
    let borrow := callMacro ⟨lendingEngine, []⟩ k borrower ⟨"borrow", [], borrowing⟩ [] none .start
    ((borrow.run { autoescape := false }).run lendingSession).1.toOption.map
      (fun r => Dict.keys r.2.imports) = some ["m"] := by decide +kernel

end Stencil.Render
