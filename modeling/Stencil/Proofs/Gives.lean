import Mathlib.Tactic.Common
import Stencil.Node.Parser

/-! What all results of a parser have in common. A directive is made of the expressions and the
nodes that the parsers give it which it is run with. -/
namespace Stencil

/-! ### Results of parsers -/

namespace Parser

variable {α β : Type} {Q : α → Prop} {R : β → Prop}

/-- Every result of the parser satisfies `Q`. -/
def Gives (Q : α → Prop) (p : Parser α) : Prop :=
  ∀ ⦃s ts r⦄, p s ts = .ok r → Q r.value

lemma gives_any (p : Parser α) : Gives (fun _ => True) p := fun _ _ _ _ => trivial

lemma gives_fail {e : ParseError} : Gives Q (fail e : Parser α) := nofun

lemma gives_tooDeep : Gives Q (tooDeep : Parser α) := by
  intro s ts r h
  unfold tooDeep at h
  cases ts with
  | cons t rest => cases h
  | nil =>
    cases hs : atEnd s () with
    | error e =>
      rw [hs] at h
      cases h
    | ok a =>
      rw [hs] at h
      cases h

lemma Gives.pure {a : α} (h : Q a) : Gives Q (Pure.pure a : Parser α) := by
  rintro s ts _ ⟨⟩
  exact h

lemma Gives.bind {p : Parser α} {f : α → Parser β} (hp : Gives Q p)
    (hf : ∀ a, Q a → Gives R (f a)) : Gives R (p >>= f) := by
  intro s ts r h
  simp only [Bind.bind] at h
  cases hr : p s ts with
  | error e =>
    rw [hr] at h
    cases h
  | ok r₁ =>
    simp only [hr] at h
    cases hr' : f r₁.value s r₁.rest with
    | error e =>
      rw [hr'] at h
      cases h
    | ok r₂ =>
      simp only [hr'] at h
      cases h
      exact hf r₁.value (hp hr) (r := r₂) hr'

/-- Whatever the first parser gives, the second one gives what is asked for. -/
lemma Gives.after {p : Parser α} {f : α → Parser β} (hf : ∀ a, Gives R (f a)) :
    Gives R (p >>= f) :=
  (gives_any p).bind fun a _ => hf a

lemma Gives.mono {Q' : α → Prop} {p : Parser α} (hp : Gives Q p) (h : ∀ a, Q a → Q' a) :
    Gives Q' p :=
  fun _ _ _ hr => h _ (hp hr)

lemma Gives.ite {c : Prop} [Decidable c] {p q : Parser α} (hp : Gives Q p) (hq : Gives Q q) :
    Gives Q (if c then p else q) := by
  split
  · exact hp
  · exact hq

lemma Gives.repeatWhile {more : Parser (Option β)} {item : β → Token → Parser (α × Bool)}
    (h : ∀ b t, Gives (fun r => Q r.1) (item b t)) :
    Gives (fun as => ∀ a ∈ as, Q a) (repeatWhile more item) := by
  intro s ts r hr
  induction hn : ts.length using Nat.strongRecOn generalizing ts r with
  | ind n ih =>
  subst hn
  rw [Parser.repeatWhile.eq_def] at hr
  split at hr
  · cases hr
  · cases hr
    exact List.forall_mem_nil _
  · cases hr
    exact List.forall_mem_nil _
  · rename_i b t rest hsuffix hmore
    split at hr
    · cases hr
    · rename_i a rest' h' hitem
      cases hr
      exact List.forall_mem_singleton.mpr (h b t hitem)
    · rename_i a rest' h' hitem
      simp only at hr
      split at hr
      · cases hr
      · rename_i as rest'' h'' hrest
        cases hr
        have hlt : rest'.length < ts.length := length_lt_of_suffix_cons hsuffix h'
        exact List.forall_mem_cons.mpr ⟨h b t hitem, ih _ hlt hrest rfl⟩

lemma Gives.commaList {close : Symbol} {expected : String} {item : Parser α} (h : Gives Q item) :
    Gives (fun as => ∀ a ∈ as, Q a) (commaList close expected item) := by
  intro s ts r hr
  induction hn : ts.length using Nat.strongRecOn generalizing ts r with
  | ind n ih =>
  subst hn
  rw [Parser.commaList.eq_def] at hr
  split at hr
  · cases hr
  · cases hr
    exact List.forall_mem_nil _
  · rename_i rest hrest _
    split at hr
    · cases hr
    · rename_i a hitem hlast
      split at hr
      · cases hr
      · cases hr
        exact List.forall_mem_singleton.mpr (h hlast)
    · rename_i a t rest' hsuffix hitem
      split at hr
      · have hlt : rest'.length < ts.length :=
          length_lt_of_suffix_cons (hsuffix.trans hrest) List.suffix_rfl
        simp only at hr
        split at hr
        · cases hr
        · rename_i as rest'' h'' hmore
          cases hr
          exact List.forall_mem_cons.mpr ⟨h hitem, ih _ hlt hmore rfl⟩
      · split at hr
        · cases hr
        · cases hr
          exact List.forall_mem_singleton.mpr (h hitem)

end Parser

/-! ### Parts of nodes -/

/-- What a call block calls, as an expression. -/
def Callee.expr : Callee → Expr
  | .name f => .var f
  | .member base key => .item base (.str key)

namespace Node

/-- The expressions that stand in a node itself. -/
def exprs : Node → List Expr
  | .print expr _ => [expr]
  | .branch condition _ more _ _ => condition :: more.map (·.1)
  | .forEach _ iterable _ _ _ => [iterable]
  | .macroDef _ params _ _ => params.filterMap (·.default)
  | .callBlock callee args _ _ => callee.expr :: args
  | .assign _ value _ => [value]
  | .extending path _ | .importing path _ _ | .including path _ => [path]
  | .filterBlock filters _ _ => filters.flatMap (·.args)
  | .scoped bindings _ _ => bindings.map (·.2)
  | .text _ | .raw _ | .comment | .block _ _ _ | .autoescape _ _ _ | .exitLoop _ | .nextItem _ => []

/-- The sequences of nodes that stand in a node itself. -/
def bodies : Node → List (List Node)
  | .branch _ body more otherwise _ => body :: (more.map (·.2) ++ otherwise.toList)
  | .forEach _ _ body otherwise _ => body :: otherwise.toList
  | .macroDef _ _ body _ | .callBlock _ _ body _ | .block _ body _ | .autoescape _ body _
  | .filterBlock _ body _ | .scoped _ body _ => [body]
  | .text _ | .raw _ | .comment | .print _ _ | .assign _ _ _ | .extending _ _ | .importing _ _ _
  | .including _ _ | .exitLoop _ | .nextItem _ => []

open Stencil.Parser

section Directives

variable {E : Expr → Prop} {N : List Node → Prop} {expr : Parser Expr}
  {nodes : Parser (List Node)}

/-- All parts of the node have their property. -/
def MadeOf (E : Expr → Prop) (N : List Node → Prop) (node : Node) : Prop :=
  (∀ e ∈ node.exprs, E e) ∧ ∀ body ∈ node.bodies, N body

/-- What is called and the arguments inherit the property from a call. -/
def Inherits (E : Expr → Prop) : Prop :=
  (∀ name args, E (.call name args) → E (.var name) ∧ ∀ a ∈ args, E a) ∧
    ∀ base member args, E (.callMember base member args) →
      E (.item base (.str member)) ∧ ∀ a ∈ args, E a

lemma gives_alternative (hN : Gives N nodes) :
    Gives (fun otherwise => ∀ body ∈ otherwise.toList, N body) (alternative? nodes) := by
  refine Gives.after fun found => ?_
  cases found with
  | none => exact Gives.pure nofun
  | some _ =>
    refine Gives.after fun _ => Gives.after fun _ => Gives.after fun _ => ?_
    exact hN.bind fun body hbody => Gives.pure (List.forall_mem_singleton.mpr hbody)

lemma gives_conditioned (hE : Gives E expr) (hN : Gives N nodes) :
    Gives (fun b => E b.1 ∧ N b.2) (conditioned expr nodes) :=
  hE.bind fun _ he => Gives.after fun _ => hN.bind fun _ hbody => Gives.pure ⟨he, hbody⟩

lemma gives_branchDirective (hE : Gives E expr) (hN : Gives N nodes) (pos : Position) :
    Gives (MadeOf E N) (branchDirective expr nodes pos) := by
  refine (gives_conditioned hE hN).bind fun first hfirst => ?_
  have hmore : Gives (fun more => ∀ b ∈ more, E b.1 ∧ N b.2)
      (repeatWhile (directiveIs "elif") fun _ _ => do
        let _ ← next?
        return (← conditioned expr nodes, true)) :=
    Gives.repeatWhile fun _ _ => Gives.after fun _ =>
      (gives_conditioned hE hN).bind fun _ hb => Gives.pure hb
  refine hmore.bind fun more hmore => (gives_alternative hN).bind fun otherwise hotherwise => ?_
  refine Gives.after fun _ => Gives.pure ⟨?_, ?_⟩
  · refine List.forall_mem_cons.mpr ⟨hfirst.1, List.forall_mem_map.mpr fun b hb => (hmore b hb).1⟩
  · refine List.forall_mem_cons.mpr ⟨hfirst.2, List.forall_mem_append.mpr ⟨?_, hotherwise⟩⟩
    exact List.forall_mem_map.mpr fun b hb => (hmore b hb).2

lemma gives_loopDirective (hE : Gives E expr) (hN : Gives N nodes) (pos : Position) :
    Gives (MadeOf E N) (loopDirective expr nodes pos) := by
  refine Gives.after fun first => Gives.after fun two => ?_
  have hrest : ∀ binding, Gives (MadeOf E N) (do
      let _ ← expect (isKeyword .isIn) "`in`"
      let iterable ← expr
      endDirective
      let body ← nodes
      let otherwise ← alternative? nodes
      close "for" pos
      return Node.forEach binding iterable body otherwise pos) := by
    intro binding
    refine Gives.after fun _ => hE.bind fun iterable hiterable => Gives.after fun _ => ?_
    refine hN.bind fun body hbody => (gives_alternative hN).bind fun otherwise hotherwise => ?_
    refine Gives.after fun _ => Gives.pure ⟨List.forall_mem_singleton.mpr hiterable, ?_⟩
    exact List.forall_mem_cons.mpr ⟨hbody, hotherwise⟩
  refine Gives.ite ?_ ?_
  · exact Gives.after fun _ => Gives.after hrest
  · exact Gives.after hrest

/-- The end of a directive, its nodes and its closer. -/
lemma gives_enclosing (hN : Gives N nodes) (construct : String) (pos : Position)
    {wrap : List Node → Node} (hwrap : ∀ body, N body → MadeOf E N (wrap body)) :
    Gives (MadeOf E N) (do
      endDirective
      let body ← nodes
      close construct pos
      return wrap body) :=
  Gives.after fun _ => hN.bind fun body hbody => Gives.after fun _ => Gives.pure (hwrap body hbody)

/-- A directive that encloses nothing, behind its last expression. -/
lemma gives_endDirective {node : Node} (h : MadeOf E N node) :
    Gives (MadeOf E N) (do
      endDirective
      return node) :=
  Gives.after fun _ => Gives.pure h

lemma gives_parameter (hE : Gives E expr) :
    Gives (fun param => ∀ e ∈ param.default, E e) (parameter expr) := by
  refine Gives.after fun name => Gives.after fun found => Gives.ite ?_ ?_
  · exact hE.bind fun e he => Gives.pure (by simpa using he)
  · exact Gives.pure nofun

lemma gives_macroDirective (hE : Gives E expr) (hN : Gives N nodes) (pos : Position) :
    Gives (MadeOf E N) (macroDirective expr nodes pos) := by
  refine Gives.after fun _ => Gives.after fun _ => ?_
  refine (Gives.commaList (gives_parameter hE)).bind fun params hparams => ?_
  refine gives_enclosing hN "macro" pos fun body hbody => ⟨fun e he => ?_, ?_⟩
  · obtain ⟨param, hparam, he⟩ := List.mem_filterMap.mp he
    exact hparams param hparam e he
  · exact List.forall_mem_singleton.mpr hbody

lemma gives_callDirective (hcall : Inherits E) (hE : Gives E expr) (hN : Gives N nodes)
    (pos : Position) : Gives (MadeOf E N) (callDirective expr nodes pos) := by
  have hrest : ∀ r : Callee × List Expr, (E r.1.expr ∧ ∀ a ∈ r.2, E a) → Gives (MadeOf E N) (do
      endDirective
      let body ← nodes
      close "call" pos
      return .callBlock r.1 r.2 body pos) := fun r hr =>
    gives_enclosing hN "call" pos fun body hbody =>
      ⟨List.forall_mem_cons.mpr hr, List.forall_mem_singleton.mpr hbody⟩
  refine hE.bind fun e he => ?_
  split
  · rename_i name args
    exact (Gives.pure rfl).bind fun r hr => hrest r (hr ▸ hcall.1 name args he)
  · rename_i base member args
    exact (Gives.pure rfl).bind fun r hr => hrest r (hr ▸ hcall.2 base member args he)
  · exact gives_fail.bind hrest

lemma gives_arguments? (hE : Gives E expr) :
    Gives (fun args => ∀ e ∈ args, E e) (Expr.arguments? expr) :=
  Gives.after fun _ => Gives.ite (Gives.commaList hE) (Gives.pure nofun)

lemma gives_filterCall (hE : Gives E expr) :
    Gives (fun filter => ∀ e ∈ filter.args, E e) (filterCall expr) :=
  Gives.after fun _ => (gives_arguments? hE).bind fun _ hargs => Gives.pure hargs

lemma gives_filterDirective (hE : Gives E expr) (hN : Gives N nodes) (pos : Position) :
    Gives (MadeOf E N) (filterDirective expr nodes pos) := by
  have hchain : Gives (fun filters => ∀ filter ∈ filters, ∀ e ∈ filter.args, E e)
      (filterChain expr) := by
    refine (gives_filterCall hE).bind fun first hfirst => ?_
    refine (Gives.repeatWhile (Q := fun filter => ∀ e ∈ filter.args, E e) fun _ _ =>
      (gives_filterCall hE).bind fun _ hfilter => Gives.pure hfilter).bind fun more hmore => ?_
    exact Gives.pure (List.forall_mem_cons.mpr ⟨hfirst, hmore⟩)
  refine hchain.bind fun filters hfilters => ?_
  refine gives_enclosing hN "filter" pos fun body hbody => ⟨fun e he => ?_, ?_⟩
  · obtain ⟨filter, hfilter, he⟩ := List.mem_flatMap.mp he
    exact hfilters filter hfilter e he
  · exact List.forall_mem_singleton.mpr hbody

lemma gives_scopeDirective (hE : Gives E expr) (hN : Gives N nodes) (pos : Position) :
    Gives (MadeOf E N) (scopeDirective expr nodes pos) := by
  have hbindings : Gives (fun names => ∀ b ∈ names, E b.2) (bindings expr) := by
    refine Gives.repeatWhile fun name _ => Gives.after fun _ => ?_
    exact hE.bind fun value hvalue => Gives.after fun _ => Gives.pure hvalue
  refine hbindings.bind fun names hnames => ?_
  refine gives_enclosing hN "with" pos fun body hbody => ⟨?_, List.forall_mem_singleton.mpr hbody⟩
  exact List.forall_mem_map.mpr hnames

lemma gives_autoescapeDirective (hN : Gives N nodes) (pos : Position) :
    Gives (MadeOf E N) (autoescapeDirective nodes pos) := by
  refine Gives.after fun t => ?_
  split
  · exact gives_fail
  · exact Gives.after fun _ => gives_enclosing hN "autoescape" pos fun _ hbody =>
      ⟨nofun, List.forall_mem_singleton.mpr hbody⟩

/-- A directive is made of what its parsers give. -/
lemma gives_directive (hcall : Inherits E) (hE : Gives E expr) (hN : Gives N nodes)
    (pos : Position) : Gives (MadeOf E N) (directive expr nodes pos) := by
  refine Gives.after fun name => ?_
  split
  · exact gives_branchDirective hE hN pos
  · exact gives_loopDirective hE hN pos
  · exact gives_macroDirective hE hN pos
  · exact gives_callDirective hcall hE hN pos
  iterate 2
    · refine Gives.after fun _ => Gives.after fun _ => hE.bind fun value hvalue => ?_
      exact gives_endDirective ⟨List.forall_mem_singleton.mpr hvalue, nofun⟩
  · exact Gives.after fun _ => gives_enclosing hN "block" pos fun _ hbody =>
      ⟨nofun, List.forall_mem_singleton.mpr hbody⟩
  iterate 2
    · exact hE.bind fun path hpath =>
        gives_endDirective ⟨List.forall_mem_singleton.mpr hpath, nofun⟩
  · refine hE.bind fun path hpath => Gives.after fun _ => Gives.after fun _ => ?_
    exact gives_endDirective ⟨List.forall_mem_singleton.mpr hpath, nofun⟩
  · exact gives_autoescapeDirective hN pos
  · exact gives_filterDirective hE hN pos
  · exact Gives.after fun _ => Gives.after fun _ => Gives.after fun _ => Gives.pure ⟨nofun, nofun⟩
  · exact gives_scopeDirective hE hN pos
  iterate 2
    · exact gives_endDirective ⟨nofun, nofun⟩
  · exact gives_fail

end Directives

end Node

end Stencil
