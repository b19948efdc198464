import Stencil.Expr.Parser
import Stencil.Node.Basic

/-! Parsing templates. Inside a directive the nodes up to its closer belong to it; the native
dialect closes everything with the same word, the jinja dialect names what is closed. -/
namespace Stencil.Node

open Stencil.Parser

/-- Whether a directive ends the nodes before it rather than standing among them. -/
def isTerminator (d : Dialect) (name : String) : Bool :=
  match d with
  | .native => name == "else" || name == "elif" || name == "end"
  | .jinja => name == "else" || name == "elif" || "end".toList.isPrefixOf name.toList

/-- The directive that closes a construct. -/
def closer (d : Dialect) (construct : String) : String :=
  match d with
  | .native => "end"
  | .jinja => "end" ++ construct

/-- How messages spell the name of a directive. -/
def spelled (d : Dialect) (name : String) : String :=
  match d with
  | .native => "@" ++ name
  | .jinja => name

/-- Takes the closer of a construct that was opened at `opened`. In the jinja dialect it may repeat
the name of a block or macro. -/
def close (construct : String) (opened : Position) : Parser Unit := do
  let d ← dialect
  let expected := closer d construct
  match ← next? with
  | none => fail (.unclosed construct (spelled d expected) opened)
  | some _ => do
    let (found, pos) ← identifierAt "closing directive"
    if found ≠ expected then fail (.mismatchedCloser (spelled d expected) (spelled d found) pos)
    else
      if d = .jinja ∧ (construct = "block" ∨ construct = "macro") then
        let _ ← eat (·.name?.isSome)
      endDirective

/-- Whether the next directive is the given one; `some` if it is. -/
def directiveIs (name : String) : Parser (Option Unit) :=
  return if (← directiveAhead) = some name then some () else none

/-- The part behind `else`, if that is the next directive. -/
def alternative? (nodes : Parser (List Node)) : Parser (Option (List Node)) := do
  match ← directiveIs "else" with
  | none => pure none
  | some () => do
    let _ ← next?
    let _ ← next?
    endDirective
    return some (← nodes)

/-- A condition with the nodes behind it. -/
def conditioned (expr : Parser Expr) (nodes : Parser (List Node)) :
    Parser (Expr × List Node) := do
  let condition ← expr
  endDirective
  return (condition, ← nodes)

/-- A condition with its nodes, any number of `elif` parts, and at most one `else` part behind
them. -/
def branchDirective (expr : Parser Expr) (nodes : Parser (List Node)) (pos : Position) :
    Parser Node := do
  let (condition, body) ← conditioned expr nodes
  let more ← repeatWhile (directiveIs "elif") fun _ _ => do
    let _ ← next?
    return (← conditioned expr nodes, true)
  let otherwise ← alternative? nodes
  close "if" pos
  return .branch condition body more otherwise pos

/-- One loop variable or two, `in`, the expression that is walked, the nodes, and an `else` part for
a walk over nothing. -/
def loopDirective (expr : Parser Expr) (nodes : Parser (List Node)) (pos : Position) :
    Parser Node := do
  let first ← identifier "loop variable"
  let binding ←
    if ← eat (isSymbol .comma) then
      pure (.pair first (← identifier "second loop variable"))
    else pure (.single first)
  let _ ← expect (isKeyword .isIn) "`in`"
  let iterable ← expr
  endDirective
  let body ← nodes
  let otherwise ← alternative? nodes
  close "for" pos
  return .forEach binding iterable body otherwise pos

/-- A parameter name, which may be followed by its default. -/
def parameter (expr : Parser Expr) : Parser Param := do
  let name ← identifier "parameter name"
  if ← eat (isSymbol .assign) then return ⟨name, some (← expr)⟩ else return ⟨name, none⟩

/-- A name, parameters between parentheses, and the nodes. -/
def macroDirective (expr : Parser Expr) (nodes : Parser (List Node)) (pos : Position) :
    Parser Node := do
  let name ← identifier "macro name"
  let _ ← expect (isSymbol .openParen) "`(`"
  let params ← commaList .closeParen "`,` or `)`" (parameter expr)
  endDirective
  let body ← nodes
  close "macro" pos
  return .macroDef name params body pos

/-- The call of a macro, and the nodes that are handed to it. -/
def callDirective (expr : Parser Expr) (nodes : Parser (List Node)) (pos : Position) :
    Parser Node := do
  let (callee, args) ← match ← expr with
    | .call name args => pure (Callee.name name, args)
    | .callMember base member args => pure (Callee.member base member, args)
    | _ => fail (.notCallable pos)
  endDirective
  let body ← nodes
  close "call" pos
  return .callBlock callee args body pos

/-- Whether an autoescape directive turns escaping on, if its argument is one of the modes. -/
def escapeMode? : Token.Kind → Option Bool
  | .directiveEnd | .keyword .true => some true
  | .keyword .false | .keyword .none => some false
  | .str s =>
    let mode := String.ofList (s.toList.map Char.toLower)
    if mode = "html" ∨ mode = "true" then some true
    else if mode = "off" ∨ mode = "none" ∨ mode = "false" then some false
    else none
  | _ => none

/-- At most one token that names the mode, and the nodes that are rendered in it. -/
def autoescapeDirective (nodes : Parser (List Node)) (pos : Position) : Parser Node := do
  match (← ahead).bind (escapeMode? ·.kind) with
  | none => fail (.invalidAutoescape pos)
  | some enabled => do
    let _ ← eat (!isDirectiveEnd ·)
    endDirective
    let body ← nodes
    close "autoescape" pos
    return .autoescape enabled body pos

/-- A filter name, which may be followed by arguments between parentheses. -/
def filterCall (expr : Parser Expr) : Parser FilterCall := do
  let name ← identifier "filter name"
  return ⟨name, ← Expr.arguments? expr⟩

/-- Filters with pipes between them. -/
def filterChain (expr : Parser Expr) : Parser (List FilterCall) := do
  let first ← filterCall expr
  let more ← repeatWhile (return (← ahead).bind fun t => if isSymbol .pipe t then some () else none)
    fun _ _ => return (← filterCall expr, true)
  return first :: more

/-- A chain of filters, and the nodes whose text goes through it. -/
def filterDirective (expr : Parser Expr) (nodes : Parser (List Node)) (pos : Position) :
    Parser Node := do
  let filters ← filterChain expr
  endDirective
  let body ← nodes
  close "filter" pos
  return .filterBlock filters body pos

/-- The identifier that stands next, if one does. -/
def identifierAhead : Parser (Option String) := return (← ahead).bind Token.name?

/-- Names with their values and commas between them. -/
def bindings (expr : Parser Expr) : Parser (List (String × Expr)) :=
  repeatWhile identifierAhead fun name _ => do
    let _ ← expect (isSymbol .assign) "`=`"
    let value ← expr
    return ((name, value), ← eat (isSymbol .comma))

/-- Variables with their values, and the nodes that see them. -/
def scopeDirective (expr : Parser Expr) (nodes : Parser (List Node)) (pos : Position) :
    Parser Node := do
  let names ← bindings expr
  endDirective
  let body ← nodes
  close "with" pos
  return .scoped names body pos

/-- The literal text inside a raw block. -/
def rawText : Parser String := do
  match ← ahead with
  | some ⟨.text content, _, _, _⟩ => do
    let _ ← next?
    pure content
  | _ => pure ""

/-- A directive behind its opening marker, which stands at `pos`. -/
def directive (expr : Parser Expr) (nodes : Parser (List Node)) (pos : Position) :
    Parser Node := do
  let name ← identifier "directive name"
  match name with
  | "if" => branchDirective expr nodes pos
  | "for" => loopDirective expr nodes pos
  | "macro" => macroDirective expr nodes pos
  | "call" => callDirective expr nodes pos
  | "let" | "set" => do
    let name ← identifier "variable name"
    let _ ← expect (isSymbol .assign) "`=`"
    let value ← expr
    endDirective
    return .assign name value pos
  | "block" => do
    let name ← identifier "block name"
    endDirective
    let body ← nodes
    close "block" pos
    return .block name body pos
  | "extends" => do
    let path ← expr
    endDirective
    return .extending path pos
  | "include" => do
    let path ← expr
    endDirective
    return .including path pos
  | "import" => do
    let path ← expr
    let _ ← expect (isWord "as") "`as`"
    let asName ← identifier "import alias"
    endDirective
    return .importing path asName pos
  | "autoescape" => autoescapeDirective nodes pos
  | "filter" => filterDirective expr nodes pos
  | "raw" => do
    endDirective
    let content ← rawText
    close "raw" pos
    return .raw content
  | "with" => scopeDirective expr nodes pos
  | "break" => do
    endDirective
    return .exitLoop pos
  | "continue" => do
    endDirective
    return .nextItem pos
  | name => fail (.unknownDirective name pos)

/-- Whether another node begins here: neither the end of the text nor a terminator. -/
def nodeAhead : Parser (Option Unit) := do
  match ← directiveAhead with
  | some name => return if isTerminator (← dialect) name then none else some ()
  | none => return (← ahead).map fun _ => ()

/-- Parses nodes up to the end of the text or a terminator. Each directive takes one level of the
budget. -/
def parser : (budget : Nat) → Parser (List Node)
  | 0 => repeatWhile nodeAhead fun _ t => do
    match t.kind with
    | .text content => return (.text content, true)
    | .comment => return (.comment, true)
    | .printStart => do
      let e ← Expr.parser 0
      let _ ← expect isPrintEnd "end of interpolation"
      return (.print e t.pos, true)
    | .directiveStart => tooDeep
    | _ => unexpected t "text, interpolation or directive"
  | n + 1 => repeatWhile nodeAhead fun _ t => do
    match t.kind with
    | .text content => return (.text content, true)
    | .comment => return (.comment, true)
    | .printStart => do
      let e ← Expr.parser (n + 1)
      let _ ← expect isPrintEnd "end of interpolation"
      return (.print e t.pos, true)
    | .directiveStart => return (← directive (Expr.parser n) (parser n) t.pos, true)
    | _ => unexpected t "text, interpolation or directive"

/-- Parses a whole template. What is left behind its nodes is a closer that closes nothing. -/
def template : Parser (List Node) := do
  let nodes ← parser maxNesting
  match ← next? with
  | none => pure nodes
  | some start => do
    let name := (← identifierAhead).getD ""
    fail (.strayCloser (spelled (← dialect) name) start.pos)

/-- Parses the tokens of a text. -/
def ofTokens (s : TokenStream) : Except SyntaxError (List Node) :=
  (template ⟨s.dialect, s.fault, s.stop⟩ s.tokens).map (·.value)

/-- Parses a text in the chosen dialect, or in the one it is written in, and says which it is. -/
def ofSource (choice : Option Dialect) (source : String) :
    Except SyntaxError (List Node × Dialect) :=
  match TokenStream.ofSource choice source with
  | .error e => .error (.ofLex e)
  | .ok s => (ofTokens s).map (·, s.dialect)

end Stencil.Node
