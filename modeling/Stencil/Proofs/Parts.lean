import Stencil.Proofs.Dict
import Stencil.Render.State

/-! The parts of templates that decide what a template may do, collected over all the places where
they can stand. -/
namespace Stencil

/-- A part of a template. -/
inductive Part where
  | text (content : String)
  | filter (name : String)
  | test (name : String)
  | autoescape (enabled : Bool)
deriving DecidableEq

namespace Expr

mutual

/-- The filters and tests of an expression. -/
def parts : Expr → List Part
  | .lit _ | .var _ => []
  | .list items => partsAll items
  | .dict entries => partsEntries entries
  | .item base key => parts base ++ parts key
  | .binary _ left right => parts left ++ parts right
  | .unary _ operand => parts operand
  | .filter base name args => .filter name :: parts base ++ partsAll args
  | .test base name args _ => .test name :: parts base ++ partsAll args
  | .call _ args => partsAll args
  | .callMember base _ args => parts base ++ partsAll args
  | .choice value condition otherwise =>
    parts value ++ parts condition ++ partsOption otherwise

def partsAll : List Expr → List Part
  | [] => []
  | e :: more => parts e ++ partsAll more

def partsEntries : List (Expr × Expr) → List Part
  | [] => []
  | (k, v) :: more => parts k ++ parts v ++ partsEntries more

def partsOption : Option Expr → List Part
  | none => []
  | some e => parts e

end

end Expr

def Callee.parts : Callee → List Part
  | .name _ => []
  | .member base _ => base.parts

def FilterCall.parts (f : FilterCall) : List Part := .filter f.name :: Expr.partsAll f.args

def Param.parts (p : Param) : List Part := Expr.partsOption p.default

namespace Instr

mutual

/-- The parts of an instruction. The body of a block belongs to its template. -/
def parts : Instr → List Part
  | .text content => [.text content]
  | .print e _ => e.parts
  | .branch condition body otherwise _ => condition.parts ++ partsAll body ++ partsAll otherwise
  | .forEach _ iterable body otherwise _ =>
    iterable.parts ++ partsAll body ++ partsAll otherwise
  | .callBlock callee args body _ => callee.parts ++ Expr.partsAll args ++ partsAll body
  | .assign _ e _ => e.parts
  | .scoped bindings body _ => bindings.flatMap (fun b => b.2.parts) ++ partsAll body
  | .block _ => []
  | .including path _ => path.parts
  | .importing path _ _ => path.parts
  | .autoescape enabled body => .autoescape enabled :: partsAll body
  | .filtered filters body _ => filters.flatMap FilterCall.parts ++ partsAll body
  | .exitLoop _ | .nextItem _ => []

def partsAll : List Instr → List Part
  | [] => []
  | i :: more => parts i ++ partsAll more

end

end Instr

def MacroDef.parts (m : MacroDef) : List Part :=
  m.params.flatMap Param.parts ++ Instr.partsAll m.body

namespace Template

/-- The parts of a template, in its body, its macros, its blocks and the path of its parent. -/
def parts (t : Template) : List Part :=
  Instr.partsAll t.body ++ t.macros.flatMap (fun m => m.2.parts) ++
    t.blocks.flatMap (fun b => Instr.partsAll b.2) ++
    Expr.partsOption (t.parent.map Prod.fst)

/-- Every part of the template satisfies `A`. -/
def Within (A : Part → Prop) (t : Template) : Prop := ∀ x ∈ t.parts, A x

variable {A : Part → Prop} {t : Template}

instance [DecidablePred A] : Decidable (t.Within A) := List.decidableBAll A t.parts

lemma within_iff : t.Within A ↔
    (∀ x ∈ Instr.partsAll t.body, A x) ∧ (∀ m ∈ t.macros, ∀ x ∈ m.2.parts, A x) ∧
      (∀ b ∈ t.blocks, ∀ x ∈ Instr.partsAll b.2, A x) ∧
      ∀ x ∈ Expr.partsOption (t.parent.map Prod.fst), A x := by
  simp only [Within, parts, List.forall_mem_append, List.forall_mem_flatMap, and_assoc]

lemma Within.mono {B : Part → Prop} (h : t.Within A) (hAB : ∀ x, A x → B x) : t.Within B :=
  fun x hx => hAB x (h x hx)

lemma Within.body (h : t.Within A) : ∀ x ∈ Instr.partsAll t.body, A x := (within_iff.mp h).1

lemma Within.macroDef (h : t.Within A) {name : String} {m : MacroDef}
    (hm : Dict.get? t.macros name = some m) : ∀ x ∈ m.parts, A x :=
  (within_iff.mp h).2.1 _ (Dict.mem_of_get? hm)

lemma Within.block (h : t.Within A) {name : String} {body : List Instr}
    (hb : Dict.get? t.blocks name = some body) : ∀ x ∈ Instr.partsAll body, A x :=
  (within_iff.mp h).2.2.1 _ (Dict.mem_of_get? hb)

lemma Within.parent (h : t.Within A) {path : Expr} {pos : Position}
    (hp : t.parent = some (path, pos)) : ∀ x ∈ path.parts, A x := by
  have hparts := (within_iff.mp h).2.2.2
  rw [hp] at hparts
  exact hparts

end Template

namespace Render.Module

mutual

/-- The template of a module and those that it imports. -/
def templates : Module → List Template
  | .mk t imports => t :: templatesAll imports

def templatesAll : List (String × Module) → List Template
  | [] => []
  | (_, m) :: more => templates m ++ templatesAll more

end

/-- All templates of the module satisfy `A`. -/
def Within (A : Part → Prop) (m : Module) : Prop := ∀ t ∈ m.templates, t.Within A

variable {A : Part → Prop}

lemma mem_templatesAll {imports : List (String × Module)} {t : Template} :
    t ∈ templatesAll imports ↔ ∃ e ∈ imports, t ∈ e.2.templates := by
  induction imports with
  | nil => simp [templatesAll]
  | cons e more ih => simp [templatesAll, ih]

lemma within_mk {t : Template} {imports : List (String × Module)} :
    (Module.mk t imports).Within A ↔ t.Within A ∧ ∀ e ∈ imports, e.2.Within A := by
  simp only [Within, templates, List.forall_mem_cons, mem_templatesAll]
  refine and_congr_right fun _ => ⟨fun h e he t ht => h t ⟨e, he, ht⟩, ?_⟩
  rintro h t ⟨e, he, ht⟩
  exact h e he t ht

lemma Within.template {m : Module} (h : m.Within A) : m.template.Within A := by
  cases m
  exact (within_mk.mp h).1

lemma Within.imports {m : Module} (h : m.Within A) : ∀ e ∈ m.imports, e.2.Within A := by
  cases m
  exact (within_mk.mp h).2

end Render.Module
end Stencil
