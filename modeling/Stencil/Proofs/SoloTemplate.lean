import Stencil.Proofs.FramedExpr

/-! Templates that stand alone: their code loads no other template, and one variable is never read.
Stored it may be, as every loop stores what it tells about its rounds. -/
namespace Stencil

namespace Expr

mutual

/-- The expression does not read the variable. -/
def ignores (hidden : String) : Expr → Bool
  | .lit _ => true
  | .var name => name != hidden
  | .list items => ignoresAll hidden items
  | .dict entries => ignoresEntries hidden entries
  | .item base key => ignores hidden base && ignores hidden key
  | .binary _ left right => ignores hidden left && ignores hidden right
  | .unary _ operand => ignores hidden operand
  | .filter base _ args | .test base _ args _ | .callMember base _ args =>
    ignores hidden base && ignoresAll hidden args
  | .call _ args => ignoresAll hidden args
  | .choice value condition otherwise =>
    ignores hidden value && ignores hidden condition && ignoresOption hidden otherwise

def ignoresAll (hidden : String) : List Expr → Bool
  | [] => true
  | e :: more => ignores hidden e && ignoresAll hidden more

def ignoresEntries (hidden : String) : List (Expr × Expr) → Bool
  | [] => true
  | (k, v) :: more => ignores hidden k && ignores hidden v && ignoresEntries hidden more

def ignoresOption (hidden : String) : Option Expr → Bool
  | none => true
  | some e => ignores hidden e

end

end Expr

def Callee.ignores (hidden : String) : Callee → Bool
  | .name _ => true
  | .member base _ => base.ignores hidden

namespace Instr

mutual

/-- The instruction reads neither the variable nor another template. The body of a block belongs
to its template. -/
def ignores (hidden : String) : Instr → Bool
  | .text _ | .block _ | .exitLoop _ | .nextItem _ => true
  | .print e _ | .assign _ e _ => e.ignores hidden
  | .branch e body otherwise _ | .forEach _ e body otherwise _ =>
    e.ignores hidden && ignoresAll hidden body && ignoresAll hidden otherwise
  | .callBlock callee args body _ =>
    callee.ignores hidden && Expr.ignoresAll hidden args && ignoresAll hidden body
  | .scoped bindings body _ =>
    bindings.all (fun b => b.2.ignores hidden) && ignoresAll hidden body
  | .autoescape _ body => ignoresAll hidden body
  | .filtered filters body _ =>
    filters.all (fun f => Expr.ignoresAll hidden f.args) && ignoresAll hidden body
  | .including _ _ | .importing _ _ _ => false

def ignoresAll (hidden : String) : List Instr → Bool
  | [] => true
  | i :: more => ignores hidden i && ignoresAll hidden more

end

/-- The instruction of the template `t` may come to a `break` that belongs to the loop around it:
one that stands in no loop of the instruction, or that stands so in a block which it places. -/
inductive Exits (t : Template) : Instr → Prop where
  | here (pos : Position) : Exits t (.exitLoop pos)
  | branch {i : Instr} {condition : Expr} {body otherwise : List Instr} {pos : Position}
      (stands : i ∈ body) (exits : Exits t i) : Exits t (.branch condition body otherwise pos)
  | otherwise {i : Instr} {condition : Expr} {body otherwise : List Instr} {pos : Position}
      (stands : i ∈ otherwise) (exits : Exits t i) :
      Exits t (.branch condition body otherwise pos)
  | afterLoop {i : Instr} {binding : Binding} {iterable : Expr} {body otherwise : List Instr}
      {pos : Position} (stands : i ∈ otherwise) (exits : Exits t i) :
      Exits t (.forEach binding iterable body otherwise pos)
  | scoped {i : Instr} {bindings : List (String × Expr)} {body : List Instr} {pos : Position}
      (stands : i ∈ body) (exits : Exits t i) : Exits t (.scoped bindings body pos)
  | autoescape {i : Instr} {enabled : Bool} {body : List Instr}
      (stands : i ∈ body) (exits : Exits t i) : Exits t (.autoescape enabled body)
  | filtered {i : Instr} {filters : List FilterCall} {body : List Instr} {pos : Position}
      (stands : i ∈ body) (exits : Exits t i) : Exits t (.filtered filters body pos)
  | block {i : Instr} {name : String} {body : List Instr}
      (placed : Dict.get? t.blocks name = some body) (stands : i ∈ body) (exits : Exits t i) :
      Exits t (.block name)

mutual

/-- Code that loads no template imports none. -/
lemma aliases_of_ignores {hidden : String} {i : Instr} (h : i.ignores hidden = true) :
    i.aliases = [] := by
  cases i with
  | branch e body otherwise pos | forEach binding e body otherwise pos =>
    simp only [ignores, Bool.and_eq_true] at h
    simp only [aliases, aliasesAll_of_ignores h.1.2, aliasesAll_of_ignores h.2, List.append_nil]
  | «scoped» bindings body pos | filtered filters body pos =>
    simp only [ignores, Bool.and_eq_true] at h
    simp only [aliases, aliasesAll_of_ignores h.2]
  | autoescape enabled body =>
    simp only [ignores] at h
    simp only [aliases, aliasesAll_of_ignores h]
  | importing path asName pos => simp [ignores] at h
  | text | print | callBlock | assign | block | including | exitLoop | nextItem => simp [aliases]

lemma aliasesAll_of_ignores {hidden : String} {body : List Instr}
    (h : ignoresAll hidden body = true) : aliasesAll body = [] := by
  cases body with
  | nil => simp [aliasesAll]
  | cons i more =>
    simp only [ignoresAll, Bool.and_eq_true] at h
    simp only [aliasesAll, aliases_of_ignores h.1, aliasesAll_of_ignores h.2, List.append_nil]

end

end Instr

def MacroDef.ignores (hidden : String) (m : MacroDef) : Bool :=
  m.params.all (fun p => Expr.ignoresOption hidden p.default) && Instr.ignoresAll hidden m.body

/-- The template extends no other one, and none of its code reads another template or the
variable. -/
structure Template.Ignores (hidden : String) (t : Template) : Prop where
  parent : t.parent = none
  body : Instr.ignoresAll hidden t.body = true
  macros : ∀ m ∈ t.macros, m.2.ignores hidden = true
  blocks : ∀ b ∈ t.blocks, Instr.ignoresAll hidden b.2 = true

namespace Template.Ignores

variable {hidden : String} {t : Template}

lemma macroDef (h : t.Ignores hidden) {name : String} {m : MacroDef}
    (hm : Dict.get? t.macros name = some m) : m.ignores hidden = true :=
  h.macros _ (Dict.mem_of_get? hm)

lemma block (h : t.Ignores hidden) {name : String} {body : List Instr}
    (hb : Dict.get? t.blocks name = some body) : Instr.ignoresAll hidden body = true :=
  h.blocks _ (Dict.mem_of_get? hb)

lemma quiet (h : t.Ignores hidden) : t.Quiet := by
  constructor
  · intro m hm
    have hbody := h.macros m hm
    simp only [MacroDef.ignores, Bool.and_eq_true] at hbody
    exact Instr.aliasesAll_of_ignores hbody.2
  · intro b hb
    exact Instr.aliasesAll_of_ignores (h.blocks b hb)

end Template.Ignores

end Stencil
