import Stencil.Proofs.Compilation
import Stencil.Proofs.Dict

/-! Templates all of whose loop controls lie in loops: each `break` and `continue` stands in the
body of a loop, and between the loop and it stand no macro, no call block and no block.
Compilation keeps this. -/
namespace Stencil

namespace Node

mutual

/-- Whether each loop control of the node stands in the body of a loop, which may be around the
node if it is `inLoop`. -/
def confined (inLoop : Bool) : Node → Bool
  | .exitLoop _ | .nextItem _ => inLoop
  | .forEach _ _ body otherwise _ => confinedAll true body && confinedOption inLoop otherwise
  | .branch _ body more otherwise _ =>
    confinedAll inLoop body && confinedBranches inLoop more && confinedOption inLoop otherwise
  | .autoescape _ body _ | .filterBlock _ body _ | .scoped _ body _ => confinedAll inLoop body
  | .macroDef _ _ body _ | .callBlock _ _ body _ | .block _ body _ => confinedAll false body
  | .text _ | .raw _ | .comment | .print _ _ | .assign _ _ _ | .extending _ _
  | .importing _ _ _ | .including _ _ => true

def confinedAll (inLoop : Bool) : List Node → Bool
  | [] => true
  | node :: more => confined inLoop node && confinedAll inLoop more

def confinedBranches (inLoop : Bool) : List (Expr × List Node) → Bool
  | [] => true
  | (_, body) :: more => confinedAll inLoop body && confinedBranches inLoop more

def confinedOption (inLoop : Bool) : Option (List Node) → Bool
  | none => true
  | some body => confinedAll inLoop body

end

end Node

namespace Instr

mutual

/-- Whether each loop control of the instruction stands in the body of a loop, which may be around
the instruction if it is `inLoop`. -/
def confined (inLoop : Bool) : Instr → Bool
  | .exitLoop _ | .nextItem _ => inLoop
  | .forEach _ _ body otherwise _ => confinedAll true body && confinedAll inLoop otherwise
  | .branch _ body otherwise _ => confinedAll inLoop body && confinedAll inLoop otherwise
  | .autoescape _ body | .filtered _ body _ | .scoped _ body _ => confinedAll inLoop body
  | .callBlock _ _ body _ => confinedAll false body
  | .text _ | .print _ _ | .assign _ _ _ | .block _ | .including _ _ | .importing _ _ _ => true

def confinedAll (inLoop : Bool) : List Instr → Bool
  | [] => true
  | i :: more => confined inLoop i && confinedAll inLoop more

end

end Instr

open Instr (confinedAll)

namespace Template

/-- The compiled form: the controls of each unit of code stand in loops of that unit. -/
structure Looped (t : Template) : Prop where
  body : confinedAll false t.body = true
  macros : ∀ m ∈ t.macros, confinedAll false m.2.body = true
  blocks : ∀ b ∈ t.blocks, confinedAll false b.2 = true

/-- The template is compiled from a tree whose loop controls all stand in loops. -/
def Confined (t : Template) : Prop :=
  ∃ r name dialect nodes, ofNodes r name dialect nodes = .ok t ∧
    Node.confinedAll false nodes = true

/-! ### Compilation -/

structure Tables.Looped (tb : Tables) : Prop where
  macros : ∀ m ∈ tb.macros, confinedAll false m.2.body = true
  blocks : ∀ b ∈ tb.blocks, confinedAll false b.2 = true

variable {r : Registry} {inLoop : Bool}

/-- Joining texts moves no control. -/
lemma confinedAll_prepend {i : Option Instr} {rest : List Instr}
    (hi : confinedAll inLoop i.toList = true) (hrest : confinedAll inLoop rest = true) :
    confinedAll inLoop (prepend i rest) = true := by
  unfold prepend
  split
  · exact hrest
  · split
    · exact hrest
    · split
      · exact hrest
      · exact hrest
  · rename_i i _
    exact Bool.and_eq_true_iff.mpr ⟨(Bool.and_eq_true_iff.mp hi).1, hrest⟩

lemma confinedAll_single {i : Instr} : confinedAll inLoop [i] = i.confined inLoop := by
  rw [confinedAll, confinedAll, Bool.and_true]

mutual

theorem looped_compileNodes {inLoop : Bool} (topLevel : Bool) (nodes : List Node)
    (hn : Node.confinedAll inLoop nodes = true) :
    Keeps Tables.Looped (fun body => confinedAll inLoop body = true)
      (compileNodes r topLevel nodes) := by
  cases nodes with
  | nil =>
    rw [compileNodes]
    exact .pure rfl
  | cons node more =>
    rw [Node.confinedAll, Bool.and_eq_true] at hn
    rw [compileNodes]
    refine .bind (looped_compileNode topLevel node hn.1) fun i hi => ?_
    refine .bind (looped_compileNodes topLevel more hn.2) fun rest hrest => ?_
    exact .pure (confinedAll_prepend hi hrest)

theorem looped_compileNode {inLoop : Bool} (topLevel : Bool) (node : Node)
    (hn : node.confined inLoop = true) :
    Keeps Tables.Looped (fun i => confinedAll inLoop i.toList = true)
      (compileNode r topLevel node) := by
  cases node with
  | text _ | raw _ | comment =>
    rw [compileNode]
    exact .pure rfl
  | print _ _ | assign _ _ _ | including _ _ | importing _ _ _ =>
    rw [compileNode]
    exact .check fun _ _ => .pure rfl
  | exitLoop _ | nextItem _ =>
    rw [compileNode]
    exact .pure (confinedAll_single.trans hn)
  | extending path pos =>
    rw [compileNode]
    exact .bind (keeps_setParent (fun _ _ htb => { htb with }) topLevel) fun _ _ => .pure rfl
  | branch condition body more otherwise pos =>
    rw [Node.confined, Bool.and_eq_true, Bool.and_eq_true] at hn
    rw [compileNode]
    refine .check fun _ _ => .bind (looped_compileNodes false body hn.1.1) fun code hcode => ?_
    refine .bind (looped_compileBranches pos (looped_compileOption otherwise hn.2) more hn.1.2)
      fun rest hrest => ?_
    exact .pure (confinedAll_single.trans (Bool.and_eq_true_iff.mpr ⟨hcode, hrest⟩))
  | forEach binding iterable body otherwise pos =>
    rw [Node.confined, Bool.and_eq_true] at hn
    rw [compileNode]
    refine .check fun _ _ => .bind (looped_compileNodes false body hn.1) fun code hcode => ?_
    refine .bind (looped_compileOption otherwise hn.2) fun rest hrest => ?_
    exact .pure (confinedAll_single.trans (Bool.and_eq_true_iff.mpr ⟨hcode, hrest⟩))
  | callBlock callee args body pos =>
    rw [compileNode]
    refine .check fun _ _ => .check fun _ _ => ?_
    exact .bind (looped_compileNodes false body hn) fun _ h => .pure (confinedAll_single.trans h)
  | «scoped» bindings body pos =>
    rw [compileNode]
    refine .bind (keeps_checkBindings bindings pos) fun _ _ => ?_
    exact .bind (looped_compileNodes false body hn) fun _ h => .pure (confinedAll_single.trans h)
  | autoescape enabled body pos =>
    rw [compileNode]
    exact .bind (looped_compileNodes false body hn) fun _ h => .pure (confinedAll_single.trans h)
  | filterBlock filters body pos =>
    rw [compileNode]
    refine .check fun _ _ => ?_
    exact .bind (looped_compileNodes false body hn) fun _ h => .pure (confinedAll_single.trans h)
  | macroDef name params body pos =>
    rw [compileNode]
    refine .check fun _ _ => .bind (looped_compileNodes false body hn) fun code hcode => ?_
    refine .bind (keeps_addMacro (fun tb htb => ?_) pos) fun _ _ => .pure rfl
    exact { htb with macros := Dict.forall_mem_insert hcode htb.macros }
  | block name body pos =>
    rw [compileNode]
    refine .bind (looped_compileNodes false body hn) fun code hcode => ?_
    refine .bind (keeps_addBlock (fun tb htb => ?_) pos) fun _ _ => .pure rfl
    exact { htb with blocks := Dict.forall_mem_insert hcode htb.blocks }

theorem looped_compileBranches {inLoop : Bool} {otherwise : CompileM (List Instr)}
    (pos : Position)
    (hlast : Keeps Tables.Looped (fun body => confinedAll inLoop body = true) otherwise)
    (more : List (Expr × List Node)) (hn : Node.confinedBranches inLoop more = true) :
    Keeps Tables.Looped (fun body => confinedAll inLoop body = true)
      (compileBranches r pos otherwise more) := by
  cases more with
  | nil =>
    rw [compileBranches]
    exact hlast
  | cons branch more =>
    obtain ⟨condition, nodes⟩ := branch
    rw [Node.confinedBranches, Bool.and_eq_true] at hn
    rw [compileBranches]
    refine .check fun _ _ => .bind (looped_compileNodes false nodes hn.1) fun code hcode => ?_
    refine .bind (looped_compileBranches pos hlast more hn.2) fun rest hrest => ?_
    exact .pure (confinedAll_single.trans (Bool.and_eq_true_iff.mpr ⟨hcode, hrest⟩))

theorem looped_compileOption {inLoop : Bool} (nodes : Option (List Node))
    (hn : Node.confinedOption inLoop nodes = true) :
    Keeps Tables.Looped (fun body => confinedAll inLoop body = true)
      (compileOption r nodes) := by
  cases nodes with
  | none =>
    rw [compileOption]
    exact .pure rfl
  | some nodes =>
    rw [compileOption]
    exact looped_compileNodes false nodes hn

end

/-- The controls of a compiled template stand in the loops in which they stand in its tree. -/
theorem Confined.looped {t : Template} (h : t.Confined) : t.Looped := by
  obtain ⟨r, name, dialect, nodes, h, hnodes⟩ := h
  obtain ⟨body, tb, hrun, rfl⟩ := ofNodes_eq_ok.mp h
  have hempty : ({} : Tables).Looped := ⟨List.forall_mem_nil _, List.forall_mem_nil _⟩
  obtain ⟨hbody, htb⟩ := looped_compileNodes true nodes hnodes hempty hrun
  exact ⟨hbody, htb.macros, htb.blocks⟩

/-- For a template that is compiled from a text, the tree is that of the text. -/
lemma confined_of_ofSource {choice : Option Dialect} {name : Option String} {source : String}
    {t : Template} (h : ofSource r choice name source = .ok t)
    (htree : ∀ nodes dialect, Node.ofSource choice source = .ok (nodes, dialect) →
      Node.confinedAll false nodes = true) : t.Confined := by
  obtain ⟨nodes, dialect, hnodes, ht⟩ := ofSource_eq_ok.mp h
  exact ⟨r, name, dialect, nodes, ht, htree nodes dialect hnodes⟩

end Template

end Stencil
