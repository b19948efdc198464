import Mathlib.Tactic.Common
import Stencil.Filter.Builtin
import Stencil.Proofs.Compilation
import Stencil.Proofs.Dict

/-! Compilation does not see how literal text is cut. Trees that differ in comments, in empty texts,
in where texts are split and in which of them are raw compile to the same template or fail alike,
and in the code of a template no text is empty and no two of them meet. -/
namespace Stencil

/-! ### Trees -/

namespace Node

/-- A place inside a node where other nodes stand. -/
inductive Slot : (List Node → Node) → Prop where
  | branch (condition more otherwise pos) :
      Slot fun body => .branch condition body more otherwise pos
  | elif (condition body before tried after otherwise pos) :
      Slot fun inner => .branch condition body (before ++ (tried, inner) :: after) otherwise pos
  | branchElse (condition body more pos) :
      Slot fun inner => .branch condition body more (some inner) pos
  | loop (binding iterable otherwise pos) :
      Slot fun body => .forEach binding iterable body otherwise pos
  | loopElse (binding iterable body pos) :
      Slot fun inner => .forEach binding iterable body (some inner) pos
  | macroDef (name params pos) : Slot fun body => .macroDef name params body pos
  | callBlock (callee args pos) : Slot fun body => .callBlock callee args body pos
  | block (name pos) : Slot fun body => .block name body pos
  | autoescape (enabled pos) : Slot fun body => .autoescape enabled body pos
  | filterBlock (filters pos) : Slot fun body => .filterBlock filters body pos
  | scoped (bindings pos) : Slot fun body => .scoped bindings body pos

/-- Definitions and the parent of a template leave nothing where they stand. -/
inductive Vanishes : Node → Prop where
  | macroDef (name params body pos) : Vanishes (.macroDef name params body pos)
  | extending (path pos) : Vanishes (.extending path pos)

/-- The trees differ at most in how their literal text is cut, at any depth: in comments, in empty
texts, in where texts are split, in which of them are raw, and in which of them stand before and
which behind what vanishes. -/
inductive Recut : List Node → List Node → Prop where
  | refl (nodes) : Recut nodes nodes
  | symm {a b} : Recut a b → Recut b a
  | trans {a b c} : Recut a b → Recut b c → Recut a c
  | comment (nodes) : Recut (.comment :: nodes) nodes
  | empty (nodes) : Recut (.text "" :: nodes) nodes
  | raw (content nodes) : Recut (.raw content :: nodes) (.text content :: nodes)
  | join (s t nodes) : Recut (.text s :: .text t :: nodes) (.text (s ++ t) :: nodes)
  | past (content nodes) {node} : Vanishes node →
      Recut (.text content :: node :: nodes) (node :: .text content :: nodes)
  | cons (node) {a b} : Recut a b → Recut (node :: a) (node :: b)
  | inside (nodes) {a b} {f : List Node → Node} : Slot f → Recut a b →
      Recut (f a :: nodes) (f b :: nodes)

end Node

/-! ### Code -/

namespace Instr

def isText : Instr → Bool
  | .text _ => true
  | _ => false

mutual

/-- Whether no text inside the instruction is empty or meets another one. -/
def merged : Instr → Bool
  | .text content => !content.isEmpty
  | .branch _ body otherwise _ | .forEach _ _ body otherwise _ =>
    mergedAll body && mergedAll otherwise
  | .callBlock _ _ body _ | .scoped _ body _ | .autoescape _ body | .filtered _ body _ =>
    mergedAll body
  | .print _ _ | .assign _ _ _ | .block _ | .including _ _ | .importing _ _ _ | .exitLoop _
  | .nextItem _ => true

def mergedAll : List Instr → Bool
  | [] => true
  | i :: more => merged i && mergedAll more && !(i.isText && more.head?.any isText)

end

end Instr

open Instr (mergedAll)

namespace Template

/-- No text of the template is empty or meets another one, wherever code stands. -/
structure Merged (t : Template) : Prop where
  body : mergedAll t.body = true
  macros : ∀ m ∈ t.macros, mergedAll m.2.body = true
  blocks : ∀ b ∈ t.blocks, mergedAll b.2 = true

/-! ### Cutting text -/

variable {r : Registry} {topLevel : Bool} {a b nodes : List Node}

lemma prepend_empty (rest : List Instr) : prepend (some (.text "")) rest = rest := rfl

/-- Texts are joined in one step or in two. -/
lemma prepend_prepend (s t : String) (rest : List Instr) :
    prepend (some (.text s)) (prepend (some (.text t)) rest) =
      prepend (some (.text (s ++ t))) rest := by
  by_cases ht : t = ""
  · subst ht
    rw [prepend_empty, String.append_empty]
  by_cases hs : s = ""
  · subst hs
    rw [prepend_empty, String.empty_append]
  have hst : ¬(s ++ t) = "" := by simp [hs]
  cases rest with
  | nil => simp [prepend, hs, ht, hst]
  | cons i rest =>
    cases i with
    | text u => simp [prepend, hs, ht, hst, String.append_assoc]
    | _ => simp [prepend, hs, ht, hst]

/-- What vanishes gives no instruction, so that texts around it meet. -/
lemma compileNodes_past {node : Node} (h : node.Vanishes) (content : String) :
    compileNodes r topLevel (.text content :: node :: nodes) =
      compileNodes r topLevel (node :: .text content :: nodes) := by
  cases h with
  | macroDef | extending =>
    simp only [compileNodes, compileNode, pure_bind, bind_assoc, prepend]

/-- Code inside a node counts by what it compiles to. -/
lemma compileNode_slot {f : List Node → Node} (hf : Node.Slot f)
    (h : compileNodes r false a = compileNodes r false b) :
    compileNode r topLevel (f a) = compileNode r topLevel (f b) := by
  cases hf with
  | elif condition body before tried after otherwise pos =>
    have hbranches : ∀ other, compileBranches r pos other (before ++ (tried, a) :: after) =
        compileBranches r pos other (before ++ (tried, b) :: after) := by
      intro other
      induction before with
      | nil => simp only [List.nil_append, compileBranches, h]
      | cons first before ih => simp only [List.cons_append, compileBranches, ih]
    simp only [compileNode, hbranches]
  | _ => simp only [compileNode, compileOption, h]

lemma compileNodes_recut (h : Node.Recut a b) :
    ∀ topLevel, compileNodes r topLevel a = compileNodes r topLevel b := by
  induction h with
  | refl => exact fun _ => rfl
  | symm _ ih => exact fun topLevel => (ih topLevel).symm
  | trans _ _ ih ih' => exact fun topLevel => (ih topLevel).trans (ih' topLevel)
  | comment => simp [compileNodes, compileNode, prepend]
  | empty =>
    simp only [compileNodes, compileNode, pure_bind, prepend_empty, bind_pure, implies_true]
  | raw => simp only [compileNodes, compileNode, implies_true]
  | join => simp [compileNodes, compileNode, prepend_prepend]
  | past content nodes hvanishes => exact fun _ => compileNodes_past hvanishes content
  | cons node _ ih =>
    intro topLevel
    simp only [compileNodes, ih]
  | inside nodes hslot _ ih =>
    intro topLevel
    simp only [compileNodes, compileNode_slot hslot (ih false)]

/-! ### Merged code -/

structure Tables.Merged (tb : Tables) : Prop where
  macros : ∀ m ∈ tb.macros, mergedAll m.2.body = true
  blocks : ∀ b ∈ tb.blocks, mergedAll b.2 = true

lemma mergedAll_single {i : Instr} (h : i.merged = true) : mergedAll [i] = true := by
  simp [mergedAll, h]

/-- A text that meets another one is joined with it, so that the front stays merged. -/
lemma mergedAll_prepend {i : Option Instr} {rest : List Instr}
    (hi : ∀ j ∈ i, j.isText = true ∨ j.merged = true) (hrest : mergedAll rest = true) :
    mergedAll (prepend i rest) = true := by
  cases i with
  | none => exact hrest
  | some i =>
    cases i with
    | text s =>
      by_cases hs : s = ""
      · subst hs
        exact hrest
      · cases rest with
        | nil => simp [prepend, mergedAll, Instr.merged, hs]
        | cons j rest =>
          cases j with
          | text t =>
            rw [mergedAll] at hrest
            simp_all [prepend, mergedAll, Instr.merged, Instr.isText]
          | _ => simp_all [prepend, mergedAll, Instr.merged, Instr.isText]
    | _ =>
      have hmerged := (hi _ rfl).resolve_left Bool.false_ne_true
      simp [prepend, mergedAll, hmerged, hrest, Instr.isText]

/-- The instruction may be put in front of merged code. -/
def Fits (i : Option Instr) : Prop := ∀ j ∈ i, j.isText = true ∨ j.merged = true

lemma fits_some {i : Instr} (h : i.merged = true) : Fits (some i) := by
  rintro _ ⟨⟩
  exact .inr h

mutual

theorem merges_compileNodes (topLevel : Bool) (nodes : List Node) :
    Keeps Tables.Merged (fun code => mergedAll code = true) (compileNodes r topLevel nodes) := by
  cases nodes with
  | nil =>
    rw [compileNodes]
    exact .pure rfl
  | cons node more =>
    rw [compileNodes]
    refine .bind (merges_compileNode topLevel node) fun i hi => ?_
    refine .bind (merges_compileNodes topLevel more) fun rest hrest => ?_
    exact .pure (mergedAll_prepend hi hrest)

theorem merges_compileNode (topLevel : Bool) (node : Node) :
    Keeps Tables.Merged Fits (compileNode r topLevel node) := by
  have hnone : Keeps Tables.Merged Fits (pure none : CompileM (Option Instr)) := .pure nofun
  cases node with
  | text content | raw content =>
    rw [compileNode]
    refine .pure ?_
    rintro _ ⟨⟩
    exact .inl rfl
  | comment =>
    rw [compileNode]
    exact hnone
  | print _ _ | assign _ _ _ | including _ _ | importing _ _ _ =>
    rw [compileNode]
    exact .check fun _ _ => .pure (fits_some rfl)
  | exitLoop _ | nextItem _ =>
    rw [compileNode]
    exact .pure (fits_some rfl)
  | extending path pos =>
    rw [compileNode]
    exact .bind (keeps_setParent (fun _ _ htb => { htb with }) topLevel) fun _ _ => hnone
  | branch condition body more otherwise pos =>
    rw [compileNode]
    refine .check fun _ _ => .bind (merges_compileNodes false body) fun code hcode => ?_
    refine .bind (merges_compileBranches pos (merges_compileOption otherwise) more)
      fun rest hrest => ?_
    exact .pure (fits_some (Bool.and_eq_true_iff.mpr ⟨hcode, hrest⟩))
  | forEach binding iterable body otherwise pos =>
    rw [compileNode]
    refine .check fun _ _ => .bind (merges_compileNodes false body) fun code hcode => ?_
    refine .bind (merges_compileOption otherwise) fun rest hrest => ?_
    exact .pure (fits_some (Bool.and_eq_true_iff.mpr ⟨hcode, hrest⟩))
  | callBlock callee args body pos =>
    rw [compileNode]
    refine .check fun _ _ => .check fun _ _ => ?_
    exact .bind (merges_compileNodes false body) fun _ hcode => .pure (fits_some hcode)
  | «scoped» bindings body pos =>
    rw [compileNode]
    refine .bind (keeps_checkBindings bindings pos) fun _ _ => ?_
    exact .bind (merges_compileNodes false body) fun _ hcode => .pure (fits_some hcode)
  | autoescape enabled body pos =>
    rw [compileNode]
    exact .bind (merges_compileNodes false body) fun _ hcode => .pure (fits_some hcode)
  | filterBlock filters body pos =>
    rw [compileNode]
    refine .check fun _ _ => ?_
    exact .bind (merges_compileNodes false body) fun _ hcode => .pure (fits_some hcode)
  | macroDef name params body pos =>
    rw [compileNode]
    refine .check fun _ _ => .bind (merges_compileNodes false body) fun code hcode => ?_
    refine .bind (keeps_addMacro (fun tb htb => ?_) pos) fun _ _ => hnone
    exact { htb with macros := Dict.forall_mem_insert hcode htb.macros }
  | block name body pos =>
    rw [compileNode]
    refine .bind (merges_compileNodes false body) fun code hcode => ?_
    refine .bind (keeps_addBlock (fun tb htb => ?_) pos) fun _ _ => .pure (fits_some rfl)
    exact { htb with blocks := Dict.forall_mem_insert hcode htb.blocks }

theorem merges_compileBranches {otherwise : CompileM (List Instr)} (pos : Position)
    (hlast : Keeps Tables.Merged (fun code => mergedAll code = true) otherwise)
    (more : List (Expr × List Node)) :
    Keeps Tables.Merged (fun code => mergedAll code = true)
      (compileBranches r pos otherwise more) := by
  cases more with
  | nil =>
    rw [compileBranches]
    exact hlast
  | cons branch more =>
    obtain ⟨condition, nodes⟩ := branch
    rw [compileBranches]
    refine .check fun _ _ => .bind (merges_compileNodes false nodes) fun code hcode => ?_
    refine .bind (merges_compileBranches pos hlast more) fun rest hrest => ?_
    exact .pure (mergedAll_single (Bool.and_eq_true_iff.mpr ⟨hcode, hrest⟩))

theorem merges_compileOption (nodes : Option (List Node)) :
    Keeps Tables.Merged (fun code => mergedAll code = true) (compileOption r nodes) := by
  cases nodes with
  | none =>
    rw [compileOption]
    exact .pure rfl
  | some nodes =>
    rw [compileOption]
    exact merges_compileNodes false nodes

end

/-- Trees whose literal text is cut differently give the same template or the same failure, and the
texts of every template are merged. -/
theorem ofNodes_merges (r : Registry) (name : Option String) (dialect : Dialect) :
    (∀ {a b}, Node.Recut a b → ofNodes r name dialect a = ofNodes r name dialect b) ∧
      ∀ {nodes t}, ofNodes r name dialect nodes = .ok t → t.Merged := by
  refine ⟨fun h => ?_, fun {nodes t} h => ?_⟩
  · unfold ofNodes
    rw [compileNodes_recut h true]
  · obtain ⟨body, tb, hrun, rfl⟩ := ofNodes_eq_ok.mp h
    have hempty : ({} : Tables).Merged := ⟨List.forall_mem_nil _, List.forall_mem_nil _⟩
    obtain ⟨hbody, htb⟩ := merges_compileNodes true nodes hempty hrun
    exact ⟨hbody, htb.macros, htb.blocks⟩

/-- Text in pieces around a comment and a macro, and inside the macro. -/
def scattered : List Node :=
  [.text "a", .comment, .macroDef "m" [] [.text "x", .raw "y"] .start, .raw "b",
    .autoescape true [.text "", .nextItem .start] .start]

def gathered : List Node :=
  [.macroDef "m" [] [.text "xy"] .start, .text "ab", .autoescape true [.nextItem .start] .start]

lemma recut_scattered : Node.Recut scattered gathered := by
  have hbody : Node.Recut [.text "x", .raw "y"] [.text "xy"] :=
    (Node.Recut.cons _ (.raw "y" [])).trans (.join "x" "y" [])
  have hmoved : ∀ nodes, Node.Recut
      (.text "a" :: .macroDef "m" [] [.text "x", .raw "y"] .start :: nodes)
      (.macroDef "m" [] [.text "xy"] .start :: .text "a" :: nodes) :=
    fun nodes => (Node.Recut.past "a" nodes (.macroDef ..)).trans (.inside _ (.macroDef ..) hbody)
  have hjoined : ∀ nodes, Node.Recut (.text "a" :: .raw "b" :: nodes) (.text "ab" :: nodes) :=
    fun nodes => (Node.Recut.cons _ (.raw "b" nodes)).trans (.join "a" "b" nodes)
  have hescaped : Node.Recut [.autoescape true [.text "", .nextItem .start] .start]
      [.autoescape true [.nextItem .start] .start] :=
    .inside [] (.autoescape true .start) (.empty _)
  exact ((Node.Recut.cons _ (.comment _)).trans (hmoved _)).trans
    (.cons _ ((hjoined _).trans (.cons _ hescaped)))

theorem ofNodes_merges_scattered :
    Node.Recut scattered gathered ∧
      ofNodes Registry.builtin none .jinja scattered =
        ofNodes Registry.builtin none .jinja gathered ∧
      ∃ t, ofNodes Registry.builtin none .jinja scattered = .ok t ∧ t.Merged := by
  obtain ⟨hsame, hmerged⟩ := ofNodes_merges Registry.builtin none .jinja
  obtain ⟨t, ht⟩ : ∃ t, ofNodes Registry.builtin none .jinja scattered = .ok t :=
    ⟨⟨none, .jinja, [.text "ab", .autoescape true [.nextItem .start]],
      [("m", ⟨"m", [], [.text "xy"]⟩)], [], none⟩, by rfl⟩
  exact ⟨recut_scattered, hsame recut_scattered, t, ht, hmerged ht⟩

end Template

end Stencil
