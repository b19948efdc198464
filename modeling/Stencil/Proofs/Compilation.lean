import Stencil.Proofs.Except
import Stencil.Template.Compile

/-! What compilation keeps true of the tables to which it adds: one rule for each way in which its
actions are put together. -/
namespace Stencil.Template

variable {r : Registry} {α β : Type} {tb tb' : Tables}

lemma exists_of_run_bind {x : CompileM α} {f : α → CompileM β} {res : β × Tables}
    (h : (x >>= f).run tb = .ok res) :
    ∃ a tb₁, x.run tb = .ok (a, tb₁) ∧ (f a).run tb₁ = .ok res := by
  obtain ⟨⟨a, tb₁⟩, hx, h⟩ := Except.exists_of_bind h
  exact ⟨a, tb₁, hx, h⟩

/-- A check changes nothing. -/
lemma run_bind_of_lift {x : Except CompileError α} {f : α → CompileM β} {res : β × Tables}
    (h : ((liftM x : CompileM α) >>= f).run tb = .ok res) :
    ∃ a, x = .ok a ∧ (f a).run tb = .ok res := by
  obtain ⟨⟨a, tb₁⟩, hx, h⟩ := Except.exists_of_bind h
  obtain ⟨b, hb, hx⟩ := Except.exists_of_bind hx
  cases hx
  exact ⟨_, hb, h⟩

lemma run_of_forM_check {bindings : List (String × Expr)} {pos : Position}
    (h : (bindings.forM fun b => (b.2.check r pos : CompileM Unit)).run tb = .ok ((), tb')) :
    (∀ b ∈ bindings, b.2.check r pos = .ok ()) ∧ tb' = tb := by
  induction bindings with
  | nil =>
    cases h
    exact ⟨List.forall_mem_nil _, rfl⟩
  | cons b more ih =>
    obtain ⟨_, hb, h⟩ := run_bind_of_lift h
    obtain ⟨hmore, rfl⟩ := ih h
    exact ⟨List.forall_mem_cons.mpr ⟨hb, hmore⟩, rfl⟩

/-- Where the action succeeds, the tables keep to `I` and its result satisfies `Q`. -/
def Keeps (I : Tables → Prop) (Q : α → Prop) (act : CompileM α) : Prop :=
  ∀ ⦃tb a tb'⦄, I tb → act.run tb = .ok (a, tb') → Q a ∧ I tb'

variable {I : Tables → Prop} {Q : α → Prop} {R : β → Prop}

namespace Keeps

lemma pure {a : α} (h : Q a) : Keeps I Q (Pure.pure a) := by
  rintro tb _ _ htb ⟨⟩
  exact ⟨h, htb⟩

lemma bind {act : CompileM α} {f : α → CompileM β} (hact : Keeps I Q act)
    (hf : ∀ a, Q a → Keeps I R (f a)) : Keeps I R (act >>= f) := by
  intro tb b tb' htb h
  obtain ⟨a, tb₁, ha, hb⟩ := exists_of_run_bind h
  obtain ⟨hQ, htb₁⟩ := hact htb ha
  exact hf a hQ htb₁ hb

lemma check {x : Except CompileError α} {f : α → CompileM β}
    (hf : ∀ a, x = .ok a → Keeps I R (f a)) : Keeps I R ((liftM x : CompileM α) >>= f) := by
  intro tb b tb' htb h
  obtain ⟨a, ha, hb⟩ := run_bind_of_lift h
  exact hf a ha htb hb

/-- A check that throws. -/
lemma guard {p : Prop} [Decidable p] {e : CompileError} {f : Unit → CompileM α}
    (h : Keeps I Q (f ())) : Keeps I Q (if p then throw e >>= f else f ()) := by
  split
  · exact nofun
  · exact h

end Keeps

lemma keeps_get : Keeps I I (MonadState.get : CompileM Tables) := by
  rintro tb _ _ htb ⟨⟩
  exact ⟨htb, htb⟩

lemma keeps_set (h : I tb) : Keeps I (fun _ => True) (MonadStateOf.set tb : CompileM Unit) := by
  rintro _ _ _ - ⟨⟩
  exact ⟨trivial, h⟩

lemma keeps_checkBindings (bindings : List (String × Expr)) (pos : Position) :
    Keeps I (fun _ => ∀ b ∈ bindings, b.2.check r pos = .ok ())
      (bindings.forM fun b => (b.2.check r pos : CompileM Unit)) := by
  intro tb _ tb' htb h
  obtain ⟨hchecked, rfl⟩ := run_of_forM_check h
  exact ⟨hchecked, htb⟩

lemma keeps_addMacro {m : MacroDef}
    (h : ∀ tb, I tb → I { tb with macros := Dict.insert m.name m tb.macros }) (pos : Position) :
    Keeps I (fun _ => True) (addMacro m pos) :=
  .bind keeps_get fun tb htb => .guard (keeps_set (h tb htb))

lemma keeps_addBlock {name : String} {body : List Instr}
    (h : ∀ tb, I tb → I { tb with blocks := Dict.insert name body tb.blocks }) (pos : Position) :
    Keeps I (fun _ => True) (addBlock name body pos) :=
  .bind keeps_get fun tb htb => .guard (keeps_set (h tb htb))

lemma keeps_setParent {path : Expr} {pos : Position}
    (h : ∀ tb, path.check r pos = .ok () → I tb → I { tb with parent := some (path, pos) })
    (topLevel : Bool) : Keeps I (fun _ => True) (setParent r topLevel path pos) := by
  refine .bind keeps_get fun _ _ => .guard (.check fun _ hpath => ?_)
  rintro tb _ _ htb ⟨⟩
  exact ⟨trivial, h tb hpath htb⟩

/-! ### Whole templates -/

lemma ofNodes_eq_ok {name : Option String} {dialect : Dialect} {nodes : List Node} {t : Template} :
    ofNodes r name dialect nodes = .ok t ↔
      ∃ body tb, (compileNodes r true nodes).run {} = .ok (body, tb) ∧
        t = ⟨name, dialect, body, tb.macros, tb.blocks, tb.parent⟩ := by
  constructor
  · intro h
    obtain ⟨⟨body, tb⟩, hrun, h⟩ := Except.exists_of_bind h
    cases h
    exact ⟨body, tb, hrun, rfl⟩
  · rintro ⟨body, tb, hrun, rfl⟩
    unfold ofNodes
    rw [hrun]
    rfl

/-- A template of a text is one of the tree that the text is parsed to. -/
lemma ofSource_eq_ok {choice : Option Dialect} {name : Option String} {source : String}
    {t : Template} :
    ofSource r choice name source = .ok t ↔
      ∃ nodes dialect, Node.ofSource choice source = .ok (nodes, dialect) ∧
        ofNodes r name dialect nodes = .ok t := by
  unfold ofSource
  constructor
  · intro h
    split at h
    · cases h
    · rename_i nodes dialect hnodes
      split at h
      · cases h
      · rename_i ht
        cases h
        exact ⟨nodes, dialect, hnodes, ht⟩
  · rintro ⟨nodes, dialect, hnodes, ht⟩
    simp only [hnodes, ht]

end Stencil.Template
