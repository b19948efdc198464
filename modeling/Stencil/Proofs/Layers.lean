import Stencil.Proofs.Compilation
import Stencil.Proofs.Dict
import Stencil.Proofs.NodeDepth

/-! The blocks of a compiled template form layers: the body of a block places only blocks of lower
layers, and there are no more layers than the parser allows levels of nesting. -/
namespace Stencil

namespace Instr

mutual

/-- The names of the blocks that an instruction places, where it stands or as the body of a call
block. -/
def placed : Instr → List String
  | .block name => [name]
  | .branch _ body otherwise _ | .forEach _ _ body otherwise _ =>
    placedAll body ++ placedAll otherwise
  | .callBlock _ _ body _ | .scoped _ body _ | .autoescape _ body | .filtered _ body _ =>
    placedAll body
  | .text _ | .print _ _ | .assign _ _ _ | .including _ _ | .importing _ _ _ | .exitLoop _
  | .nextItem _ => []

def placedAll : List Instr → List String
  | [] => []
  | i :: more => placed i ++ placedAll more

end

end Instr

open Instr

/-- Whether the block `name` and all blocks that its body places can be replaced by their bodies in
at most `n` steps inside each other. -/
def Settled (blocks : Dict (List Instr)) : Nat → String → Prop
  | 0, _ => False
  | n + 1, name =>
    ∃ body, Dict.get? blocks name = some body ∧ ∀ b ∈ placedAll body, Settled blocks n b

variable {blocks blocks' : Dict (List Instr)} {n m : Nat} {name : String}

lemma Settled.contains (h : Settled blocks n name) : Dict.contains blocks name = true := by
  cases n with
  | zero => exact h.elim
  | succ n =>
    obtain ⟨body, hbody, -⟩ := h
    rw [Dict.contains, hbody]
    rfl

/-- What is stored stays stored. -/
def Extends (blocks blocks' : Dict (List Instr)) : Prop :=
  ∀ name body, Dict.get? blocks name = some body → Dict.get? blocks' name = some body

lemma Settled.mono (h : Settled blocks n name) (hb : Extends blocks blocks') (hn : n ≤ m) :
    Settled blocks' m name := by
  induction n generalizing m name with
  | zero => exact h.elim
  | succ n ih =>
    obtain ⟨m, rfl⟩ : ∃ k, m = k + 1 := ⟨m - 1, by omega⟩
    obtain ⟨body, hbody, hinner⟩ := h
    exact ⟨body, hb _ _ hbody, fun b hm => ih (hinner b hm) (Nat.le_of_succ_le_succ hn)⟩

namespace Template

/-- Every block settles within the levels of the parser, and all code places blocks of its own
template only. -/
structure Layered (t : Template) : Prop where
  blocks : ∀ name, Dict.contains t.blocks name = true →
    Settled t.blocks Parser.maxNesting name
  body : ∀ b ∈ placedAll t.body, Dict.contains t.blocks b = true
  macros : ∀ m ∈ t.macros, ∀ b ∈ placedAll m.2.body, Dict.contains t.blocks b = true

namespace Tables

/-- What `Layered` says, about the tables of a template that is being compiled. -/
structure Layered (tb : Tables) : Prop where
  blocks : ∀ name, Dict.contains tb.blocks name = true →
    Settled tb.blocks Parser.maxNesting name
  macros : ∀ m ∈ tb.macros, ∀ b ∈ placedAll m.2.body, Dict.contains tb.blocks b = true

/-- Compilation went from `tb` to `tb'`, and `names` settle there in `n` steps. -/
structure Grown (tb tb' : Tables) (n : Nat) (names : List String) : Prop where
  layered : tb'.Layered
  grown : Extends tb.blocks tb'.blocks
  settled : ∀ b ∈ names, Settled tb'.blocks n b

variable {tb tb₁ tb' : Tables} {names more : List String}

lemma Grown.refl (h : tb.Layered) : Grown tb tb n [] :=
  ⟨h, fun _ _ => id, List.forall_mem_nil _⟩

lemma Grown.mono (h : Grown tb tb' n names) (hn : n ≤ m) (hmore : ∀ b ∈ more, b ∈ names) :
    Grown tb tb' m more :=
  ⟨h.layered, h.grown, fun b hb => (h.settled b (hmore b hb)).mono (fun _ _ => id) hn⟩

/-- One step of compilation after the other. -/
lemma Grown.trans (h : Grown tb tb₁ n names) (h' : Grown tb₁ tb' n more) :
    Grown tb tb' n (names ++ more) where
  layered := h'.layered
  grown _ _ hb := h'.grown _ _ (h.grown _ _ hb)
  settled := List.forall_mem_append.mpr
    ⟨fun b hb => (h.settled b hb).mono h'.grown (Nat.le_refl n), h'.settled⟩

end Tables

open Tables

variable {r : Registry} {tb tb' : Tables}

/-- Joining texts places nothing. -/
lemma mem_placedAll_prepend {i : Option Instr} {rest : List Instr} {b : String}
    (h : b ∈ placedAll (prepend i rest)) : b ∈ placedAll (i.toList ++ rest) := by
  unfold prepend at h
  split at h
  · exact h
  · split at h
    · exact h
    · split at h
      · exact h
      · exact h
  · exact h

lemma contains_insert {α : Type} {d : Dict α} {key name : String} {value : α} :
    Dict.contains (Dict.insert key value d) name = true ↔
      name = key ∨ Dict.contains d name = true := by
  unfold Dict.contains
  rw [Dict.get?_insert]
  split
  · simp [*]
  · simp [*]

lemma grown_addMacro {m : MacroDef} {pos : Position} (htb : tb.Layered)
    (hm : ∀ b ∈ placedAll m.body, Dict.contains tb.blocks b = true)
    (h : (addMacro m pos).run tb = .ok ((), tb')) : Grown tb tb' 0 [] := by
  obtain ⟨_, _, hget, h⟩ := exists_of_run_bind h
  cases hget
  split at h
  · cases h
  · cases h
    refine ⟨{ htb with macros := Dict.forall_mem_insert hm htb.macros }, fun _ _ => id, ?_⟩
    exact List.forall_mem_nil _

/-- A block settles one step above what its body places. -/
lemma grown_addBlock {name : String} {body : List Instr} {pos : Position} (htb : tb.Layered)
    (hn : n + 1 ≤ Parser.maxNesting) (hbody : ∀ b ∈ placedAll body, Settled tb.blocks n b)
    (h : (addBlock name body pos).run tb = .ok ((), tb')) : Grown tb tb' (n + 1) [name] := by
  obtain ⟨_, _, hget, h⟩ := exists_of_run_bind h
  cases hget
  split at h
  · cases h
  · rename_i hfresh
    cases h
    have hgrown : Extends tb.blocks (Dict.insert name body tb.blocks) := by
      intro other found hfound
      rw [Dict.get?_insert, if_neg]
      · exact hfound
      · rintro rfl
        rw [Dict.contains, hfound] at hfresh
        exact hfresh rfl
    have hnew : Settled (Dict.insert name body tb.blocks) (n + 1) name :=
      ⟨body, Dict.get?_insert_self .., fun b hb => (hbody b hb).mono hgrown (Nat.le_refl n)⟩
    refine ⟨⟨fun other hother => ?_, fun m hm b hb => ?_⟩, hgrown,
      List.forall_mem_singleton.mpr hnew⟩
    · rcases contains_insert.mp hother with rfl | hother
      · exact hnew.mono (fun _ _ => id) hn
      · exact (htb.blocks other hother).mono hgrown (Nat.le_refl _)
    · exact contains_insert.mpr (.inr (htb.macros m hm b hb))

lemma grown_setParent {topLevel : Bool} {path : Expr} {pos : Position} (htb : tb.Layered)
    (h : (setParent r topLevel path pos).run tb = .ok ((), tb')) : Grown tb tb' 0 [] := by
  obtain ⟨_, _, hget, h⟩ := exists_of_run_bind h
  cases hget
  split at h
  · cases h
  · obtain ⟨_, -, h⟩ := run_bind_of_lift h
    cases h
    exact ⟨{ htb with }, fun _ _ => id, List.forall_mem_nil _⟩

mutual

theorem grown_compileNodes {topLevel : Bool} {tb tb' : Tables} {n : Nat} (nodes : List Node)
    {body : List Instr} (htb : tb.Layered) (hn : Node.depthAll nodes ≤ n)
    (hmax : n ≤ Parser.maxNesting)
    (h : (compileNodes r topLevel nodes).run tb = .ok (body, tb')) :
    Grown tb tb' n (placedAll body) := by
  cases nodes with
  | nil =>
    rw [compileNodes] at h
    cases h
    exact .refl htb
  | cons node more =>
    rw [Node.depthAll, Nat.max_le] at hn
    rw [compileNodes] at h
    obtain ⟨i, tb₁, hi, h⟩ := exists_of_run_bind h
    obtain ⟨rest, tb₂, hrest, h⟩ := exists_of_run_bind h
    cases h
    have hfirst := grown_compileNode node htb hn.1 hmax hi
    have hmore := grown_compileNodes more hfirst.layered hn.2 hmax hrest
    refine (hfirst.trans hmore).mono (Nat.le_refl n) fun b hb => ?_
    have hb := mem_placedAll_prepend hb
    cases i with
    | none => exact List.mem_append_right _ hb
    | some i => simpa [placedAll] using hb

theorem grown_compileNode {topLevel : Bool} {tb tb' : Tables} {n : Nat} (node : Node)
    {i : Option Instr} (htb : tb.Layered) (hn : node.depth ≤ n) (hmax : n ≤ Parser.maxNesting)
    (h : (compileNode r topLevel node).run tb = .ok (i, tb')) :
    Grown tb tb' n (placedAll i.toList) := by
  have hwhole : ∀ {i : Instr}, placedAll [i] = placed i := fun {i} => List.append_nil (placed i)
  cases node with
  | text _ | raw _ | comment =>
    rw [compileNode] at h
    cases h
    exact .refl htb
  | print _ _ | assign _ _ _ | including _ _ | importing _ _ _ =>
    rw [compileNode] at h
    obtain ⟨_, -, h⟩ := run_bind_of_lift h
    cases h
    exact .refl htb
  | exitLoop _ | nextItem _ =>
    rw [compileNode] at h
    cases h
    exact .refl htb
  | extending path pos =>
    rw [compileNode] at h
    obtain ⟨_, tb₁, hset, h⟩ := exists_of_run_bind h
    cases h
    exact (grown_setParent htb hset).mono (Nat.zero_le n) fun _ => id
  | branch condition body more otherwise pos =>
    rw [Node.depth] at hn
    simp only [Nat.succ_le_iff, Nat.max_lt] at hn
    rw [compileNode] at h
    obtain ⟨_, -, h⟩ := run_bind_of_lift h
    obtain ⟨code, tb₁, hcode, h⟩ := exists_of_run_bind h
    obtain ⟨rest, tb₂, hrest, h⟩ := exists_of_run_bind h
    cases h
    have hbody := grown_compileNodes body htb (Nat.le_of_lt hn.1) hmax hcode
    have hmore := grown_compileBranches
      (fun htb h => grown_compileOption otherwise htb (Nat.le_of_lt hn.2.2) hmax h) more
      hbody.layered (Nat.le_of_lt hn.2.1) hmax hrest
    rw [Option.toList_some, hwhole, placed]
    exact hbody.trans hmore
  | forEach binding iterable body otherwise pos =>
    rw [Node.depth] at hn
    simp only [Nat.succ_le_iff, Nat.max_lt] at hn
    rw [compileNode] at h
    obtain ⟨_, -, h⟩ := run_bind_of_lift h
    obtain ⟨code, tb₁, hcode, h⟩ := exists_of_run_bind h
    obtain ⟨rest, tb₂, hrest, h⟩ := exists_of_run_bind h
    cases h
    have hbody := grown_compileNodes body htb (Nat.le_of_lt hn.1) hmax hcode
    have hother := grown_compileOption otherwise hbody.layered (Nat.le_of_lt hn.2) hmax hrest
    rw [Option.toList_some, hwhole, placed]
    exact hbody.trans hother
  | callBlock callee args body pos =>
    rw [Node.depth] at hn
    rw [compileNode] at h
    obtain ⟨_, -, h⟩ := run_bind_of_lift h
    obtain ⟨_, -, h⟩ := run_bind_of_lift h
    obtain ⟨code, tb₁, hcode, h⟩ := exists_of_run_bind h
    cases h
    rw [Option.toList_some, hwhole, placed]
    exact grown_compileNodes body htb (Nat.le_of_succ_le hn) hmax hcode
  | «scoped» bindings body pos =>
    rw [Node.depth] at hn
    rw [compileNode] at h
    obtain ⟨_, tb₀, hcheck, h⟩ := exists_of_run_bind h
    obtain ⟨code, tb₁, hcode, h⟩ := exists_of_run_bind h
    cases h
    rw [Option.toList_some, hwhole, placed]
    obtain ⟨-, rfl⟩ := run_of_forM_check hcheck
    exact grown_compileNodes body htb (Nat.le_of_succ_le hn) hmax hcode
  | autoescape enabled body pos =>
    rw [Node.depth] at hn
    rw [compileNode] at h
    obtain ⟨code, tb₁, hcode, h⟩ := exists_of_run_bind h
    cases h
    rw [Option.toList_some, hwhole, placed]
    exact grown_compileNodes body htb (Nat.le_of_succ_le hn) hmax hcode
  | filterBlock filters body pos =>
    rw [Node.depth] at hn
    rw [compileNode] at h
    obtain ⟨_, -, h⟩ := run_bind_of_lift h
    obtain ⟨code, tb₁, hcode, h⟩ := exists_of_run_bind h
    cases h
    rw [Option.toList_some, hwhole, placed]
    exact grown_compileNodes body htb (Nat.le_of_succ_le hn) hmax hcode
  | macroDef name params body pos =>
    rw [Node.depth] at hn
    rw [compileNode] at h
    obtain ⟨_, -, h⟩ := run_bind_of_lift h
    obtain ⟨code, tb₁, hcode, h⟩ := exists_of_run_bind h
    obtain ⟨_, tb₂, hadd, h⟩ := exists_of_run_bind h
    cases h
    have hbody := grown_compileNodes body htb (Nat.le_of_succ_le hn) hmax hcode
    have hown := fun b hb => (hbody.settled b hb).contains
    refine (hbody.trans ((grown_addMacro hbody.layered hown hadd).mono (Nat.zero_le n)
      fun _ => id)).mono (Nat.le_refl n) nofun
  | block name body pos =>
    rw [Node.depth] at hn
    rw [compileNode] at h
    obtain ⟨code, tb₁, hcode, h⟩ := exists_of_run_bind h
    obtain ⟨_, tb₂, hadd, h⟩ := exists_of_run_bind h
    cases h
    obtain ⟨n, rfl⟩ : ∃ k, n = k + 1 := ⟨n - 1, by omega⟩
    -- The body of the block may use one step less than the block itself.
    have hbody := grown_compileNodes body htb (Nat.le_of_succ_le_succ hn)
      (Nat.le_of_succ_le hmax) hcode
    have hblock := grown_addBlock hbody.layered hmax hbody.settled hadd
    have hinside : Grown tb tb₁ (n + 1) [] := hbody.mono (Nat.le_succ n) nofun
    exact hinside.trans hblock

theorem grown_compileBranches {otherwise : CompileM (List Instr)} {pos : Position}
    {tb tb' : Tables} {n : Nat}
    (hlast : ∀ {tb tb' body}, tb.Layered → otherwise.run tb = .ok (body, tb') →
      Grown tb tb' n (placedAll body))
    (more : List (Expr × List Node)) {body : List Instr} (htb : tb.Layered)
    (hn : Node.depthBranches more ≤ n) (hmax : n ≤ Parser.maxNesting)
    (h : (compileBranches r pos otherwise more).run tb = .ok (body, tb')) :
    Grown tb tb' n (placedAll body) := by
  cases more with
  | nil =>
    rw [compileBranches] at h
    exact hlast htb h
  | cons branch more =>
    obtain ⟨condition, nodes⟩ := branch
    rw [Node.depthBranches, Nat.max_le] at hn
    rw [compileBranches] at h
    obtain ⟨_, -, h⟩ := run_bind_of_lift h
    obtain ⟨code, tb₁, hcode, h⟩ := exists_of_run_bind h
    obtain ⟨rest, tb₂, hrest, h⟩ := exists_of_run_bind h
    cases h
    have hbody := grown_compileNodes nodes htb hn.1 hmax hcode
    have hmore := grown_compileBranches hlast more hbody.layered hn.2 hmax hrest
    rw [placedAll, placed, placedAll, List.append_nil]
    exact hbody.trans hmore

theorem grown_compileOption {tb tb' : Tables} {n : Nat} (nodes : Option (List Node))
    {body : List Instr} (htb : tb.Layered) (hn : Node.depthOption nodes ≤ n)
    (hmax : n ≤ Parser.maxNesting)
    (h : (compileOption r nodes).run tb = .ok (body, tb')) :
    Grown tb tb' n (placedAll body) := by
  cases nodes with
  | none =>
    rw [compileOption] at h
    cases h
    exact .refl htb
  | some nodes =>
    rw [compileOption] at h
    exact grown_compileNodes nodes htb hn hmax h

end

/-- Templates come from texts. -/
def Compiled (t : Template) : Prop :=
  ∃ r choice name source, ofSource r choice name source = .ok t

/-- The blocks of a template settle within the levels of nesting that its text may have. -/
theorem Compiled.layered {t : Template} (h : t.Compiled) : t.Layered := by
  obtain ⟨r, choice, name, source, h⟩ := h
  obtain ⟨nodes, dialect, hnodes, ht⟩ := ofSource_eq_ok.mp h
  obtain ⟨body, tb, hrun, rfl⟩ := ofNodes_eq_ok.mp ht
  have hempty : ({} : Tables).Layered := ⟨nofun, List.forall_mem_nil _⟩
  have hgrown := grown_compileNodes nodes hempty (Node.depthAll_le_of_ofSource hnodes)
    (Nat.le_refl _) hrun
  exact ⟨hgrown.layered.blocks, fun b hb => (hgrown.settled b hb).contains,
    hgrown.layered.macros⟩

end Template

end Stencil
