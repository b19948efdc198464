import Stencil.Proofs.NameCheck

/-! Compilation looks at a registry only to see which names it has. A text that is a template stays
one when names are added, and it is compiled to the same instructions. -/
namespace Stencil

/-- The registry `r'` has all the names that `r` has. -/
def Registry.Grows (r r' : Registry) : Prop := ∀ x, r.Knows x → r'.Knows x

/-! ### Successes that persist -/

namespace Except

variable {ε α β : Type} {x y : Except ε α}

/-- A success of `x` is one of `y`, with the same result. -/
def Persists (x y : Except ε α) : Prop := ∀ a, x = .ok a → y = .ok a

lemma Persists.refl (x : Except ε α) : Persists x x := fun _ h => h

lemma Persists.bind {f g : α → Except ε β} (hx : Persists x y) (hf : ∀ a, Persists (f a) (g a)) :
    Persists (x >>= f) (y >>= g) := by
  intro b h
  obtain ⟨a, ha, hb⟩ := exists_of_bind h
  rw [hx a ha]
  exact hf a b hb

lemma Persists.ite {p : Prop} [Decidable p] {x' y' : Except ε α} (h : Persists x y)
    (h' : Persists x' y') : Persists (if p then x else x') (if p then y else y') := by
  split
  · exact h
  · exact h'

lemma Persists.forM {f g : α → Except ε PUnit} (h : ∀ a, Persists (f a) (g a)) (items : List α) :
    Persists (items.forM f) (items.forM g) := by
  induction items with
  | nil => exact .refl _
  | cons a more ih => exact .bind (h a) fun _ => ih

end Except

variable {r r' : Registry} {pos : Position}

/-! ### Expressions -/

namespace Expr

lemma persists_checkFilter (h : r.Grows r') (name : String) :
    Except.Persists (checkFilter r pos name) (checkFilter r' pos name) := by
  intro _ hname
  exact if_pos (h _ (knows_of_checkFilter hname))

lemma persists_checkTest (h : r.Grows r') (name : String) :
    Except.Persists (checkTest r pos name) (checkTest r' pos name) := by
  intro _ hname
  exact if_pos (h _ (knows_of_checkTest hname))

mutual

theorem persists_check (h : r.Grows r') (e : Expr) :
    Except.Persists (check r pos e) (check r' pos e) := by
  cases e with
  | lit value | var name =>
    rw [check, check]
    exact .refl _
  | list items =>
    rw [check, check]
    exact persists_checkAll h items
  | dict entries =>
    rw [check, check]
    exact persists_checkEntries h entries
  | item base key | binary op base key =>
    rw [check, check]
    exact .bind (persists_check h base) fun _ => persists_check h key
  | unary op operand =>
    rw [check, check]
    exact persists_check h operand
  | filter base name args =>
    rw [check, check]
    exact .bind (persists_checkFilter h name) fun _ =>
      .bind (persists_check h base) fun _ => persists_checkAll h args
  | test base name args negated =>
    rw [check, check]
    exact .bind (persists_checkTest h name) fun _ =>
      .bind (persists_check h base) fun _ => persists_checkAll h args
  | call name args =>
    rw [check, check]
    exact persists_checkAll h args
  | callMember base member args =>
    rw [check, check]
    exact .bind (persists_check h base) fun _ => persists_checkAll h args
  | choice value condition otherwise =>
    rw [check, check]
    exact .bind (persists_check h value) fun _ =>
      .bind (persists_check h condition) fun _ => persists_checkOption h otherwise

theorem persists_checkAll (h : r.Grows r') (items : List Expr) :
    Except.Persists (checkAll r pos items) (checkAll r' pos items) := by
  cases items with
  | nil =>
    rw [checkAll, checkAll]
    exact .refl _
  | cons e more =>
    rw [checkAll, checkAll]
    exact .bind (persists_check h e) fun _ => persists_checkAll h more

theorem persists_checkEntries (h : r.Grows r') (entries : List (Expr × Expr)) :
    Except.Persists (checkEntries r pos entries) (checkEntries r' pos entries) := by
  cases entries with
  | nil =>
    rw [checkEntries, checkEntries]
    exact .refl _
  | cons entry more =>
    obtain ⟨key, value⟩ := entry
    rw [checkEntries, checkEntries]
    exact .bind (persists_check h key) fun _ =>
      .bind (persists_check h value) fun _ => persists_checkEntries h more

theorem persists_checkOption (h : r.Grows r') (e : Option Expr) :
    Except.Persists (checkOption r pos e) (checkOption r' pos e) := by
  cases e with
  | none =>
    rw [checkOption, checkOption]
    exact .refl _
  | some e =>
    rw [checkOption, checkOption]
    exact persists_check h e

end

end Expr

lemma Callee.persists_check (h : r.Grows r') (callee : Callee) :
    Except.Persists (callee.check r pos) (callee.check r' pos) := by
  cases callee with
  | name name => exact .refl _
  | member base member => exact Expr.persists_check h base

/-! ### Nodes -/

namespace Template

variable {α β : Type} {act act' : CompileM α}

/-- From all tables, a success of `act` is one of `act'`, with the same result. -/
def Persists (act act' : CompileM α) : Prop :=
  ∀ tb, Except.Persists (act.run tb) (act'.run tb)

lemma Persists.refl (act : CompileM α) : Persists act act := fun _ => .refl _

lemma Persists.bind {f g : α → CompileM β} (hact : Persists act act')
    (hf : ∀ a, Persists (f a) (g a)) : Persists (act >>= f) (act' >>= g) :=
  fun tb => .bind (hact tb) fun r => hf r.1 r.2

lemma Persists.ite {p : Prop} [Decidable p] {other other' : CompileM α} (h : Persists act act')
    (hother : Persists other other') :
    Persists (if p then act else other) (if p then act' else other') := by
  split
  · exact h
  · exact hother

/-- The two actions go on in the same way. -/
lemma Persists.andThen (hact : Persists act act') (f : α → CompileM β) :
    Persists (act >>= f) (act' >>= f) :=
  hact.bind fun _ => .refl _

lemma Persists.lift {x y : Except CompileError α} (h : Except.Persists x y) :
    Persists (liftM x) (liftM y) :=
  fun _ => .bind h fun _ => .refl _

lemma persists_checkParams (h : r.Grows r') (name : String) (seen : List String)
    (defaulted : Bool) (params : List Param) :
    Except.Persists (checkParams r pos name seen defaulted params)
      (checkParams r' pos name seen defaulted params) := by
  induction params generalizing seen defaulted with
  | nil => exact .refl _
  | cons p more ih =>
    unfold checkParams
    refine .ite (.refl _) ?_
    cases p.default with
    | some e => exact .bind (Expr.persists_check h e) fun _ => ih _ _
    | none => exact .ite (.refl _) (ih _ _)

lemma persists_checkFilters (h : r.Grows r') (filters : List FilterCall) :
    Except.Persists (checkFilters r pos filters) (checkFilters r' pos filters) := by
  unfold checkFilters
  exact .forM (fun f => .bind (Expr.persists_checkFilter h f.name) fun _ =>
    Expr.persists_checkAll h f.args) filters

lemma persists_check (h : r.Grows r') (e : Expr) :
    Persists (liftM (e.check r pos)) (liftM (e.check r' pos)) :=
  .lift (Expr.persists_check h e)

lemma persists_checkBindings (h : r.Grows r') (bindings : List (String × Expr)) :
    Persists (bindings.forM fun b => (b.2.check r pos : CompileM Unit))
      (bindings.forM fun b => (b.2.check r' pos : CompileM Unit)) := by
  induction bindings with
  | nil => exact .refl _
  | cons b more ih => exact .bind (persists_check h b.2) fun _ => ih

lemma persists_setParent (h : r.Grows r') (topLevel : Bool) (path : Expr) (pos : Position) :
    Persists (setParent r topLevel path pos) (setParent r' topLevel path pos) := by
  unfold setParent
  exact .bind (.refl _) fun _ => .ite (.refl _) (.andThen (persists_check h path) _)

mutual

theorem persists_compileNodes (h : r.Grows r') (topLevel : Bool) (nodes : List Node) :
    Persists (compileNodes r topLevel nodes) (compileNodes r' topLevel nodes) := by
  cases nodes with
  | nil =>
    rw [compileNodes, compileNodes]
    exact .refl _
  | cons node more =>
    rw [compileNodes, compileNodes]
    exact .bind (persists_compileNode h topLevel node) fun _ =>
      .andThen (persists_compileNodes h topLevel more) _

theorem persists_compileNode (h : r.Grows r') (topLevel : Bool) (node : Node) :
    Persists (compileNode r topLevel node) (compileNode r' topLevel node) := by
  cases node with
  | text content | raw content | comment | exitLoop pos | nextItem pos =>
    rw [compileNode, compileNode]
    exact .refl _
  | print e pos | assign name e pos | including e pos | importing e asName pos =>
    rw [compileNode, compileNode]
    exact .andThen (persists_check h e) _
  | branch condition body more otherwise pos =>
    rw [compileNode, compileNode]
    refine .bind (persists_check h condition) fun _ => ?_
    refine .bind (persists_compileNodes h false body) fun _ => ?_
    exact .andThen (persists_compileBranches h (persists_compileOption h otherwise) pos more) _
  | forEach binding iterable body otherwise pos =>
    rw [compileNode, compileNode]
    refine .bind (persists_check h iterable) fun _ => ?_
    refine .bind (persists_compileNodes h false body) fun _ => ?_
    exact .andThen (persists_compileOption h otherwise) _
  | macroDef name params body pos =>
    rw [compileNode, compileNode]
    refine .bind (.lift (persists_checkParams h name [] false params)) fun _ => ?_
    exact .andThen (persists_compileNodes h false body) _
  | callBlock callee args body pos =>
    rw [compileNode, compileNode]
    refine .bind (.lift (callee.persists_check h)) fun _ => ?_
    refine .bind (.lift (Expr.persists_checkAll h args)) fun _ => ?_
    exact .andThen (persists_compileNodes h false body) _
  | «scoped» bindings body pos =>
    rw [compileNode, compileNode]
    refine .bind (persists_checkBindings h bindings) fun _ => ?_
    exact .andThen (persists_compileNodes h false body) _
  | block name body pos | autoescape enabled body pos =>
    rw [compileNode, compileNode]
    exact .andThen (persists_compileNodes h false body) _
  | extending path pos =>
    rw [compileNode, compileNode]
    exact .andThen (persists_setParent h topLevel path pos) _
  | filterBlock filters body pos =>
    rw [compileNode, compileNode]
    refine .bind (.lift (persists_checkFilters h filters)) fun _ => ?_
    exact .andThen (persists_compileNodes h false body) _

theorem persists_compileBranches (h : r.Grows r') {otherwise otherwise' : CompileM (List Instr)}
    (ho : Persists otherwise otherwise') (pos : Position) (branches : List (Expr × List Node)) :
    Persists (compileBranches r pos otherwise branches)
      (compileBranches r' pos otherwise' branches) := by
  cases branches with
  | nil =>
    rw [compileBranches, compileBranches]
    exact ho
  | cons branch more =>
    obtain ⟨condition, body⟩ := branch
    rw [compileBranches, compileBranches]
    refine .bind (persists_check h condition) fun _ => ?_
    refine .bind (persists_compileNodes h false body) fun _ => ?_
    exact .andThen (persists_compileBranches h ho pos more) _

theorem persists_compileOption (h : r.Grows r') (nodes : Option (List Node)) :
    Persists (compileOption r nodes) (compileOption r' nodes) := by
  cases nodes with
  | none =>
    rw [compileOption, compileOption]
    exact .refl _
  | some nodes =>
    rw [compileOption, compileOption]
    exact persists_compileNodes h false nodes

end

/-- A text that a registry lets through is the same template for every registry that has more
names. -/
theorem ofSource_of_grows (h : r.Grows r') {choice : Option Dialect} {name : Option String}
    {source : String} {t : Template} (ht : ofSource r choice name source = .ok t) :
    ofSource r' choice name source = .ok t := by
  obtain ⟨nodes, dialect, hnodes, ht⟩ := ofSource_eq_ok.mp ht
  have hsame : Except.Persists (ofNodes r name dialect nodes) (ofNodes r' name dialect nodes) :=
    .bind (persists_compileNodes h true nodes {}) fun _ => .refl _
  exact ofSource_eq_ok.mpr ⟨nodes, dialect, hnodes, hsame t ht⟩

end Template
end Stencil
