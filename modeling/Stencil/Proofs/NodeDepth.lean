import Stencil.Proofs.Gives

/-! How deep directives stand inside each other in a syntax tree: never deeper than the budget of
the parser. -/
namespace Stencil

namespace Node

mutual

/-- How many directives stand inside each other at most, this one with them if it has nodes. -/
def depth : Node → Nat
  | .branch _ body more otherwise _ =>
    max (depthAll body) (max (depthBranches more) (depthOption otherwise)) + 1
  | .forEach _ _ body otherwise _ => max (depthAll body) (depthOption otherwise) + 1
  | .macroDef _ _ body _ | .callBlock _ _ body _ | .block _ body _ | .autoescape _ body _
  | .filterBlock _ body _ | .scoped _ body _ => depthAll body + 1
  | .text _ | .raw _ | .comment | .print _ _ | .assign _ _ _ | .extending _ _
  | .importing _ _ _ | .including _ _ | .exitLoop _ | .nextItem _ => 0

def depthAll : List Node → Nat
  | [] => 0
  | node :: more => max (depth node) (depthAll more)

def depthBranches : List (Expr × List Node) → Nat
  | [] => 0
  | (_, body) :: more => max (depthAll body) (depthBranches more)

def depthOption : Option (List Node) → Nat
  | none => 0
  | some body => depthAll body

end

lemma depthAll_le {nodes : List Node} {n : Nat} :
    depthAll nodes ≤ n ↔ ∀ node ∈ nodes, node.depth ≤ n := by
  induction nodes with
  | nil => simp [depthAll]
  | cons node more ih => rw [depthAll, Nat.max_le, ih, List.forall_mem_cons]

lemma depthBranches_le {more : List (Expr × List Node)} {n : Nat} :
    depthBranches more ≤ n ↔ ∀ b ∈ more, depthAll b.2 ≤ n := by
  induction more with
  | nil => simp [depthBranches]
  | cons b more ih => rw [depthBranches, Nat.max_le, ih, List.forall_mem_cons]

lemma depthOption_le {otherwise : Option (List Node)} {n : Nat} :
    depthOption otherwise ≤ n ↔ ∀ body ∈ otherwise.toList, depthAll body ≤ n := by
  cases otherwise <;> simp [depthOption]

/-- A node stands one level above what it encloses. -/
lemma depth_le {node : Node} {n : Nat} (h : ∀ body ∈ node.bodies, depthAll body ≤ n) :
    node.depth ≤ n + 1 := by
  cases node with
  | branch condition body more otherwise pos =>
    obtain ⟨hbody, hrest⟩ := List.forall_mem_cons.mp h
    obtain ⟨hmore, hotherwise⟩ := List.forall_mem_append.mp hrest
    rw [depth, Nat.add_le_add_iff_right]
    refine Nat.max_le.mpr ⟨hbody, Nat.max_le.mpr ⟨?_, depthOption_le.mpr hotherwise⟩⟩
    exact depthBranches_le.mpr (List.forall_mem_map.mp hmore)
  | forEach binding iterable body otherwise pos =>
    obtain ⟨hbody, hotherwise⟩ := List.forall_mem_cons.mp h
    rw [depth, Nat.add_le_add_iff_right]
    exact Nat.max_le.mpr ⟨hbody, depthOption_le.mpr hotherwise⟩
  | macroDef | callBlock | block | autoescape | filterBlock | «scoped» =>
    rw [depth, Nat.add_le_add_iff_right]
    exact h _ (List.mem_singleton_self _)
  | _ => exact Nat.zero_le _

open Stencil.Parser

lemma gives_depth {n : Nat} {expr : Parser Expr} {nodes : Parser (List Node)}
    (h : Gives (fun body => depthAll body ≤ n) nodes) (pos : Position) :
    Gives (fun node => node.depth ≤ n + 1) (directive expr nodes pos) :=
  (gives_directive (E := fun _ => True) ⟨fun _ _ _ => ⟨trivial, fun _ _ => trivial⟩,
    fun _ _ _ _ => ⟨trivial, fun _ _ => trivial⟩⟩ (gives_any expr) h pos).mono
    fun _ hnode => depth_le hnode.2

/-- A budget bounds the nesting of what is parsed with it. -/
theorem gives_nodes (n : Nat) : Gives (fun nodes => depthAll nodes ≤ n) (parser n) := by
  induction n with
  | zero =>
    unfold parser
    refine (Gives.repeatWhile (Q := fun node => node.depth ≤ 0) fun _ t => ?_).mono
      fun _ h => depthAll_le.mpr h
    split
    · exact Gives.pure (Nat.le_refl 0)
    · exact Gives.pure (Nat.le_refl 0)
    · exact Gives.after fun _ => Gives.after fun _ => Gives.pure (Nat.le_refl 0)
    · exact gives_tooDeep
    · exact gives_fail
  | succ n ih =>
    unfold parser
    refine (Gives.repeatWhile (Q := fun node => node.depth ≤ n + 1) fun _ t => ?_).mono
      fun _ h => depthAll_le.mpr h
    split
    · exact Gives.pure (Nat.zero_le _)
    · exact Gives.pure (Nat.zero_le _)
    · exact Gives.after fun _ => Gives.after fun _ => Gives.pure (Nat.zero_le _)
    · exact (gives_depth ih t.pos).bind fun _ h => Gives.pure h
    · exact gives_fail

lemma gives_template : Gives (fun nodes => depthAll nodes ≤ maxNesting) template := by
  refine (gives_nodes maxNesting).bind fun nodes hnodes => Gives.after fun start => ?_
  split
  · exact Gives.pure hnodes
  · exact Gives.after fun _ => Gives.after fun _ => gives_fail

theorem depthAll_le_of_ofSource {choice : Option Dialect} {source : String}
    {r : List Node × Dialect} (h : ofSource choice source = .ok r) :
    depthAll r.1 ≤ maxNesting := by
  unfold ofSource at h
  split at h
  · cases h
  · rename_i s hs
    unfold ofTokens at h
    cases hr : template ⟨s.dialect, s.fault, s.stop⟩ s.tokens with
    | error e =>
      rw [hr] at h
      cases h
    | ok parsed =>
      rw [hr] at h
      cases h
      exact gives_template hr

end Node

end Stencil
