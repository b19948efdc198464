import Stencil.Proofs.BoundedExpr
import Stencil.Proofs.Gives

/-! A directive in two parts: its heading, up to the end of its own tokens, and what it encloses, up
to its closer. What takes closers is left open here; with `close` it is the parser of templates. -/
namespace Stencil.Node

open Stencil.Parser

/-- What the heading of a directive says about what it encloses. -/
inductive Opening where
  /-- The directive encloses nothing. -/
  | alone (node : Node)
  /-- It encloses nodes. -/
  | enclosing (construct : String) (wrap : List Node → Node)
  /-- It encloses literal text. -/
  | raw
  /-- It encloses nodes that may have an alternative. -/
  | loop (wrap : List Node → Option (List Node) → Node)
  /-- It encloses nodes with further conditions and an alternative. -/
  | branch (condition : Expr)

/-- The directives that enclose something. -/
def openers : List String :=
  ["if", "for", "macro", "call", "block", "autoescape", "filter", "with", "raw"]

/-- A heading of a directive of the given name. -/
def Opening.Of (name : String) : Opening → Prop
  | .alone _ => name ∉ openers
  | .enclosing construct _ => construct = name ∧ name ∈ openers ∧ name ≠ "if" ∧ name ≠ "for"
  | .raw => name = "raw"
  | .loop _ => name = "for"
  | .branch _ => name = "if"

/-- The heading of the directive of the given name, through its end. -/
def heading (expr : Parser Expr) (pos : Position) (name : String) : Parser Opening :=
  match name with
  | "if" => do
    let condition ← expr
    endDirective
    return .branch condition
  | "for" => do
    let first ← identifier "loop variable"
    let binding ←
      if ← eat (isSymbol .comma) then
        pure (.pair first (← identifier "second loop variable"))
      else pure (.single first)
    let _ ← expect (isKeyword .isIn) "`in`"
    let iterable ← expr
    endDirective
    return .loop fun body otherwise => .forEach binding iterable body otherwise pos
  | "macro" => do
    let name ← identifier "macro name"
    let _ ← expect (isSymbol .openParen) "`(`"
    let params ← commaList .closeParen "`,` or `)`" (parameter expr)
    endDirective
    return .enclosing "macro" fun body => .macroDef name params body pos
  | "call" => do
    let (callee, args) ← match ← expr with
      | .call name args => pure (Callee.name name, args)
      | .callMember base member args => pure (Callee.member base member, args)
      | _ => fail (.notCallable pos)
    endDirective
    return .enclosing "call" fun body => .callBlock callee args body pos
  | "let" | "set" => do
    let name ← identifier "variable name"
    let _ ← expect (isSymbol .assign) "`=`"
    let value ← expr
    endDirective
    return .alone (.assign name value pos)
  | "block" => do
    let name ← identifier "block name"
    endDirective
    return .enclosing "block" fun body => .block name body pos
  | "extends" => do
    let path ← expr
    endDirective
    return .alone (.extending path pos)
  | "include" => do
    let path ← expr
    endDirective
    return .alone (.including path pos)
  | "import" => do
    let path ← expr
    let _ ← expect (isWord "as") "`as`"
    let asName ← identifier "import alias"
    endDirective
    return .alone (.importing path asName pos)
  | "autoescape" => do
    match (← ahead).bind (escapeMode? ·.kind) with
    | none => fail (.invalidAutoescape pos)
    | some enabled => do
      let _ ← eat (!isDirectiveEnd ·)
      endDirective
      return .enclosing "autoescape" fun body => .autoescape enabled body pos
  | "filter" => do
    let filters ← filterChain expr
    endDirective
    return .enclosing "filter" fun body => .filterBlock filters body pos
  | "raw" => do
    endDirective
    return .raw
  | "with" => do
    let names ← bindings expr
    endDirective
    return .enclosing "with" fun body => .scoped names body pos
  | "break" => do
    endDirective
    return .alone (.exitLoop pos)
  | "continue" => do
    endDirective
    return .alone (.nextItem pos)
  | name => fail (.unknownDirective name pos)

section

variable (close : String → Position → Parser Unit) (expr : Parser Expr)
  (nodes : Parser (List Node)) (pos : Position)

/-- The rest of a directive behind its heading. -/
def enclosed : Opening → Parser Node
  | .alone node => pure node
  | .enclosing construct wrap => do
    let body ← nodes
    close construct pos
    return wrap body
  | .raw => do
    let content ← rawText
    close "raw" pos
    return .raw content
  | .loop wrap => do
    let body ← nodes
    let otherwise ← alternative? nodes
    close "for" pos
    return wrap body otherwise
  | .branch condition => do
    let body ← nodes
    let more ← repeatWhile (directiveIs "elif") fun _ _ => do
      let _ ← next?
      return (← conditioned expr nodes, true)
    let otherwise ← alternative? nodes
    close "if" pos
    return .branch condition body more otherwise pos

/-- A directive behind its opening marker. -/
def directiveBy : Parser Node := do
  let name ← identifier "directive name"
  enclosed close expr nodes pos (← heading expr pos name)

end

lemma tooDeep_bind {α β : Type} (f : α → Parser β) : (tooDeep >>= f) = tooDeep := by
  refine ext_outcome fun s ts => ?_
  rw [outcome_bind]
  unfold outcome tooDeep atEnd
  cases ts with
  | nil => cases s.fault <;> rfl
  | cons t ts => rfl

/-- With `close` the two parts make up the directive. -/
lemma directiveBy_close (expr : Parser Expr) (nodes : Parser (List Node)) (pos : Position) :
    directiveBy close expr nodes pos = directive expr nodes pos := by
  unfold directiveBy directive
  congr 1
  funext name
  unfold heading
  split
  · simp only [branchDirective, conditioned, enclosed, bind_assoc, pure_bind]
  · simp only [loopDirective, bind_assoc, pure_bind]
    refine bind_congr fun first => bind_congr fun two => ?_
    cases two <;> simp only [enclosed, bind_assoc, pure_bind, if_true, Bool.false_eq_true, if_false]
  · simp only [macroDirective, enclosed, bind_assoc, pure_bind]
  · simp only [callDirective, bind_assoc, pure_bind]
    refine bind_congr fun callee => ?_
    cases callee with
    | call | callMember => simp only [enclosed, bind_assoc, pure_bind]
    | _ => rfl
  iterate 6
    · simp only [enclosed, bind_assoc, pure_bind]
  · simp only [autoescapeDirective, bind_assoc]
    refine bind_congr fun t => ?_
    cases t.bind (escapeMode? ·.kind) with
    | none => rfl
    | some enabled => simp only [enclosed, bind_assoc, pure_bind]
  · simp only [filterDirective, enclosed, bind_assoc, pure_bind]
  · simp only [enclosed, bind_assoc, pure_bind]
  · simp only [scopeDirective, enclosed, bind_assoc, pure_bind]
  iterate 2
    · simp only [enclosed, bind_assoc, pure_bind]
  · -- the other side may have been split along with this one
    try simp only
    rfl

/-- The node that begins with the given token. -/
def piece (expr : Parser Expr) (directive : Position → Parser Node) (t : Token) :
    Parser (Node × Bool) :=
  match t.kind with
  | .text content => return (.text content, true)
  | .comment => return (.comment, true)
  | .printStart => do
    let e ← expr
    let _ ← expect isPrintEnd "end of interpolation"
    return (.print e t.pos, true)
  | .directiveStart => return (← directive t.pos, true)
  | _ => unexpected t "text, interpolation or directive"

variable (close : String → Position → Parser Unit)

/-- Nodes up to the end of the text or a terminator. -/
def parserBy : (budget : Nat) → Parser (List Node)
  | 0 => repeatWhile nodeAhead fun _ => piece (Expr.parser 0) fun _ => tooDeep
  | n + 1 => repeatWhile nodeAhead fun _ =>
    piece (Expr.parser (n + 1)) (directiveBy close (Expr.parser n) (parserBy n))

lemma parserBy_close (n : Nat) : parserBy Node.close n = parser n := by
  induction n with
  | zero =>
    unfold parserBy parser
    congr 1
    refine funext fun _ => funext fun t => ?_
    unfold piece
    cases t.kind with
    | directiveStart => exact tooDeep_bind _
    | _ => rfl
  | succ n ih =>
    have hdirective : ∀ pos, directiveBy Node.close (Expr.parser n) (parserBy Node.close n) pos =
        directive (Expr.parser n) (parser n) pos := fun pos => by rw [ih, directiveBy_close]
    unfold parserBy parser
    congr 1
    refine funext fun _ => funext fun t => ?_
    unfold piece
    cases t.kind with
    | directiveStart => exact congrArg (· >>= fun node => pure (node, true)) (hdirective t.pos)
    | _ => rfl

/-- A whole template. -/
def templateBy : Parser (List Node) := do
  let nodes ← parserBy close maxNesting
  match ← next? with
  | none => pure nodes
  | some start => do
    let name := (← identifierAhead).getD ""
    fail (.strayCloser (spelled (← dialect) name) start.pos)

lemma templateBy_close : templateBy Node.close = template := by
  rw [templateBy, parserBy_close]
  rfl

/-- A text in the chosen dialect, or in the one it is written in. -/
def ofSourceBy (choice : Option Dialect) (source : String) :
    Except SyntaxError (List Node × Dialect) :=
  match TokenStream.ofSource choice source with
  | .error e => .error (.ofLex e)
  | .ok s => ((templateBy close ⟨s.dialect, s.fault, s.stop⟩ s.tokens).map (·.value)).map
    (·, s.dialect)

/-- What takes closers makes the parser of templates. -/
theorem ofSourceBy_close : ofSourceBy Node.close = ofSource := by
  funext choice source
  rw [ofSourceBy, templateBy_close]
  rfl

/-! ### The ends of headings -/

section Closes

variable {stop : Token} {expr : Parser Expr}

lemma bounded_parameter (hstop : stop.Ends) (h : Bounded stop expr) :
    Bounded stop (parameter expr) := by
  refine (bounded_identifier hstop).bind fun name => ?_
  refine (bounded_eat (isSymbol_of_ends hstop _)).bind fun b => ?_
  exact Heeds.ite (h.bind fun e => Heeds.pure fun _ => id) (Heeds.pure fun _ => id)

lemma bounded_filterCall (hstop : stop.Ends) (h : Bounded stop expr) :
    Bounded stop (filterCall expr) :=
  (bounded_identifier hstop).bind fun _ =>
    (Expr.bounded_arguments? hstop h).bind fun _ => Heeds.pure fun _ => id

lemma bounded_filterChain (hstop : stop.Ends) (h : Bounded stop expr) :
    Bounded stop (filterChain expr) := by
  refine (bounded_filterCall hstop h).bind fun first => ?_
  refine (bounded_repeatWhile ?_ fun _ _ => ?_).bind fun more => Heeds.pure fun _ => id
  · refine Heeds.look ?_ fun t => ?_
    · simp only [Option.bind_some, isSymbol_of_ends hstop]
      exact Heeds.pure fun ts h => ⟨h ▸ List.forall_mem_nil _, nofun⟩
    · exact Heeds.pure fun _ h => ⟨h.inner, fun _ => Begins.ne_nil h⟩
  · exact (bounded_filterCall hstop h).bind fun filter => Heeds.pure fun _ => id

lemma bounded_bindings (hstop : stop.Ends) (h : Bounded stop expr) :
    Bounded stop (bindings expr) := by
  refine bounded_repeatWhile ?_ fun name _ => ?_
  · refine Heeds.look ?_ fun t => ?_
    · simp only [Option.bind_some, name?_of_ends hstop]
      exact Heeds.pure fun ts h => ⟨h ▸ List.forall_mem_nil _, nofun⟩
    · exact Heeds.pure fun _ h => ⟨h.inner, fun _ => Begins.ne_nil h⟩
  · refine (bounded_expect (isSymbol_of_ends hstop _)).bind fun _ => h.bind fun value => ?_
    exact (bounded_eat (isSymbol_of_ends hstop _)).bind fun b => Heeds.pure fun _ => id

lemma isDirectiveEnd_of_kind (h : stop.kind = .directiveEnd) : isDirectiveEnd stop = true := by
  rw [isDirectiveEnd, h]

lemma not_isDirectiveEnd {t : Token} (h : t.isInner = true) : isDirectiveEnd t = false := by
  unfold isDirectiveEnd
  split
  · rename_i hkind
    rw [Token.isInner, hkind] at h
    cases h
  · rfl

lemma closes_endDirective (hstop : stop.kind = .directiveEnd) :
    Closes stop Inner endDirective :=
  Closes.map (closes_expect (isDirectiveEnd_of_kind hstop) fun _ => not_isDirectiveEnd) ()

/-- A heading ends with its directive. -/
lemma closes_heading (hstop : stop.kind = .directiveEnd) (h : Bounded stop expr) (pos : Position)
    (name : String) : Closes stop Inner (heading expr pos name) := by
  have hends : stop.Ends := .inr hstop
  have hend : ∀ made : Opening, Closes stop Inner (do
      endDirective
      return made) := fun made => (closes_endDirective hstop).map _
  have hname : ∀ expected, Bounded stop (identifier expected) := fun _ => bounded_identifier hends
  unfold heading
  split
  · exact h.before fun condition => hend _
  · have hrest : ∀ binding, Closes stop Inner (do
        let _ ← expect (isKeyword .isIn) "`in`"
        let iterable ← expr
        endDirective
        return Opening.loop fun body otherwise => .forEach binding iterable body otherwise pos) :=
      fun binding => (bounded_expect (isKeyword_of_ends hends _)).before fun _ =>
        h.before fun iterable => hend _
    refine (hname _).before fun first => (bounded_eat (isSymbol_of_ends hends _)).before fun b => ?_
    simp only [pure_bind]
    exact Closes.ite ((hname _).before fun second => hrest _) (hrest _)
  · refine (hname _).before fun name => ?_
    refine (bounded_expect (isSymbol_of_ends hends _)).before fun _ => ?_
    exact (bounded_commaList hends (bounded_parameter hends h) _ _).before fun params => hend _
  · refine h.before fun callee => ?_
    simp only [pure_bind]
    split
    · exact hend _
    · exact hend _
    · exact Closes.fail rfl
  iterate 2
    · refine (hname _).before fun name => ?_
      refine (bounded_expect (isSymbol_of_ends hends _)).before fun _ => ?_
      exact h.before fun value => hend _
  · exact (hname _).before fun name => hend _
  iterate 2
    · exact h.before fun path => hend _
  · refine h.before fun path => (bounded_expect (isWord_of_ends hends _)).before fun _ => ?_
    exact (hname _).before fun asName => hend _
  · refine bounded_ahead.before fun t => ?_
    cases t.bind (escapeMode? ·.kind) with
    | none => exact Closes.fail rfl
    | some enabled =>
      have hother : (!isDirectiveEnd stop) = false := by rw [isDirectiveEnd_of_kind hstop]; rfl
      exact (bounded_eat (p := (!isDirectiveEnd ·)) hother).before fun _ => hend _
  · exact (bounded_filterChain hends h).before fun filters => hend _
  · exact hend _
  · exact (bounded_bindings hends h).before fun names => hend _
  iterate 2
    · exact hend _
  · exact Closes.fail rfl

end Closes

/-! ### What headings open -/

/-- The heading of a directive opens a construct of its name. -/
lemma gives_heading (expr : Parser Expr) (pos : Position) (name : String) :
    Gives (Opening.Of name) (heading expr pos name) := by
  have hend : ∀ {name : String} {made : Opening}, made.Of name → Gives (Opening.Of name) (do
      endDirective
      return made) := fun hmade => Gives.after fun _ => Gives.pure hmade
  have halone : ∀ {name : String} {node : Node}, name ∉ openers → Gives (Opening.Of name) (do
      endDirective
      return .alone node) := fun hname => hend hname
  have hopens : ∀ {name : String} {wrap : List Node → Node}, name ∈ openers → name ≠ "if" →
      name ≠ "for" → (Opening.enclosing name wrap).Of name :=
    fun hname hif hfor => ⟨rfl, hname, hif, hfor⟩
  unfold heading
  split
  · exact Gives.after fun _ => hend rfl
  · refine Gives.after fun _ => Gives.after fun _ => ?_
    simp only [pure_bind]
    refine Gives.ite (Gives.after fun _ => ?_) ?_
    iterate 2
      · exact Gives.after fun _ => Gives.after fun _ => hend rfl
  · refine Gives.after fun _ => Gives.after fun _ => Gives.after fun _ => hend ?_
    exact hopens (by decide) (by decide) (by decide)
  · refine Gives.after fun callee => ?_
    have hcall : ∀ r : Callee × List Expr, Gives (Opening.Of "call") (do
        endDirective
        return .enclosing "call" fun body => .callBlock r.1 r.2 body pos) :=
      fun r => hend (hopens (by decide) (by decide) (by decide))
    simp only [pure_bind]
    split
    · exact hcall (_, _)
    · exact hcall (_, _)
    · exact gives_fail
  iterate 2
    · exact Gives.after fun _ => Gives.after fun _ => Gives.after fun _ => halone (by decide)
  · exact Gives.after fun _ => hend (hopens (by decide) (by decide) (by decide))
  iterate 2
    · exact Gives.after fun _ => halone (by decide)
  · exact Gives.after fun _ => Gives.after fun _ => Gives.after fun _ => halone (by decide)
  · refine Gives.after fun t => ?_
    split
    · exact gives_fail
    · exact Gives.after fun _ => hend (hopens (by decide) (by decide) (by decide))
  · exact Gives.after fun _ => hend (hopens (by decide) (by decide) (by decide))
  · exact hend rfl
  · exact Gives.after fun _ => hend (hopens (by decide) (by decide) (by decide))
  iterate 2
    · exact halone (by decide)
  · exact gives_fail

end Stencil.Node
