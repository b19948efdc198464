import Stencil.Expr.Basic
import Stencil.Parser.Basic

/-! Parsing expressions. From loose to tight: the conditional, `or`, `and`, comparisons and tests,
`~`, `+` and `-`, `*` and the divisions, `not` and the minus sign, and what follows a primary. Each
operator takes one level of a budget that bounds the nesting. -/
namespace Stencil.Expr

open Stencil.Parser

/-- Applies what `operator` finds to an expression until it finds nothing more. -/
def suffixes {α : Type} (operator : Parser (Option α)) (apply : α → Nat → Expr → Parser Expr) :
    (budget : Nat) → Expr → Parser Expr
  | 0, e => do
    match ← operator with
    | none => pure e
    | some _ => tooDeep
  | n + 1, e => do
    match ← operator with
    | none => pure e
    | some o => suffixes operator apply n (← apply o n e)

/-- Takes the next token if it is one of some operators. -/
def operator? (ops : Token.Kind → Option BinaryOp) : Parser (Option BinaryOp) := do
  match (← ahead).bind (ops ·.kind) with
  | some op => do
    let _ ← next?
    pure (some op)
  | none => pure none

/-- Operands with operators of one level between them, grouped to the left. -/
def leftAssoc (ops : Token.Kind → Option BinaryOp) (operand : Nat → Parser Expr) (n : Nat) :
    Parser Expr := do
  suffixes (operator? ops) (fun op m e => return .binary op e (← operand m)) n (← operand n)

def orOp? : Token.Kind → Option BinaryOp
  | .keyword .or => some .or
  | _ => none

def andOp? : Token.Kind → Option BinaryOp
  | .keyword .and => some .and
  | _ => none

def comparisonOp? : Token.Kind → Option BinaryOp
  | .symbol .equal => some .equal
  | .symbol .notEqual => some .notEqual
  | .symbol .less => some .less
  | .symbol .greater => some .greater
  | .symbol .lessEqual => some .lessEqual
  | .symbol .greaterEqual => some .greaterEqual
  | .keyword .isIn => some .isIn
  | _ => none

def concatOp? : Token.Kind → Option BinaryOp
  | .symbol .tilde => some .concat
  | _ => none

def additiveOp? : Token.Kind → Option BinaryOp
  | .symbol .plus => some .add
  | .symbol .minus => some .sub
  | _ => none

def multiplicativeOp? : Token.Kind → Option BinaryOp
  | .symbol .star => some .mul
  | .symbol .slash => some .div
  | .symbol .slashSlash => some .floorDiv
  | .symbol .percent => some .rem
  | _ => none

/-- What stands between the operands of a comparison. -/
inductive Comparison where
  | binary (op : BinaryOp)
  | test

/-- Whether `not` and `in` stand next. -/
def notInAhead : Parser Bool := do
  if (← ahead).any (isKeyword .not) then return (← secondAhead).any (isKeyword .isIn)
  else return false

/-- Takes the operator of a comparison or the start of a test, if one stands next. -/
def comparison? : Parser (Option Comparison) := do
  match ← ahead with
  | none => pure none
  | some t =>
    match comparisonOp? t.kind with
    | some op => do
      let _ ← next?
      pure (some (.binary op))
    | none =>
      if isKeyword .is t then do
        let _ ← next?
        pure (some .test)
      else if ← notInAhead then do
        let _ ← next?
        let _ ← next?
        pure (some (.binary .notIn))
      else pure none

/-- Arguments behind an opening parenthesis, through the closing one. -/
def arguments (expr : Parser Expr) : Parser (List Expr) :=
  commaList .closeParen "`,` or `)`" expr

/-- Arguments in parentheses, if there are any. -/
def arguments? (expr : Parser Expr) : Parser (List Expr) := do
  if ← eat (isSymbol .openParen) then arguments expr else pure []

/-- The name of a test: an identifier, or one of the words for null and the truth values. -/
def testName : Parser String := do
  let t ← next "test name"
  match t.kind with
  | .ident name => pure name
  | .keyword .none | .keyword .true | .keyword .false =>
    pure (String.ofList (t.lexeme.toList.map Char.toLower))
  | _ => unexpected t "test name"

/-- The rest of a test of `e`. -/
def testOf (expr : Parser Expr) (e : Expr) : Parser Expr := do
  let negated ← eat (isKeyword .not)
  let name ← testName
  return .test e name (← arguments? expr) negated

/-- Comparisons and tests, grouped to the left. -/
def comparisons (expr operand : Nat → Parser Expr) (n : Nat) : Parser Expr := do
  suffixes comparison?
    (fun op m e =>
      match op with
      | .binary op => return .binary op e (← operand m)
      | .test => testOf (expr m) e)
    n (← operand n)

/-- Prefix operators before an operand. -/
def prefixed (operand : Nat → Parser Expr) : Nat → Parser Expr
  | 0 => do
    if ← eat (isKeyword .not) then tooDeep
    else if ← eat (isSymbol .minus) then tooDeep
    else operand 0
  | n + 1 => do
    if ← eat (isKeyword .not) then return .unary .not (← prefixed operand n)
    else if ← eat (isSymbol .minus) then return .unary .neg (← prefixed operand n)
    else operand (n + 1)

/-- What may follow a primary. -/
inductive Suffix where
  | member
  | index
  | call
  | filter

def suffix? : Token.Kind → Option Suffix
  | .symbol .dot => some .member
  | .symbol .openBracket => some .index
  | .symbol .openParen => some .call
  | .symbol .pipe => some .filter
  | _ => none

/-- The parts of a number around its point. -/
def numberParts (lexeme : List Char) : List (List Char) :=
  lexeme.takeWhile (· != '.') ::
    match lexeme.dropWhile (· != '.') with
    | [] => []
    | _ :: fraction => [fraction]

/-- The member of `e` that the token behind the point names. Two indices with a point between
them are one number to the lexer. -/
def memberOf (e : Expr) : Parser Expr := do
  let t ← next "attribute name"
  match t.kind with
  | .ident name => pure (.item e (.str name))
  | .int i => pure (.item e (.int i))
  | .float _ =>
    match (numberParts t.lexeme.toList).mapM Decimal.readInt? with
    | some indices => pure (indices.foldl (fun e i => .item e (.int i)) e)
    | none => unexpected t "attribute name"
  | _ => unexpected t "attribute name"

/-- The call of `e`, which has to be a name or a member. -/
def callOf (expr : Parser Expr) (e : Expr) : Parser Expr := do
  let t ← next "`(`"
  match e with
  | .var name => return .call name (← arguments expr)
  | .item base (.lit (.str member)) => return .callMember base member (← arguments expr)
  | _ => fail (.notCallable t.pos)

/-- One suffix of `e`. -/
def suffixOf (expr : Parser Expr) (s : Suffix) (e : Expr) : Parser Expr := do
  match s with
  | .member => do
    let _ ← next?
    memberOf e
  | .index => do
    let _ ← next?
    let key ← expr
    let _ ← expect (isSymbol .closeBracket) "`]`"
    return .item e key
  | .call => callOf expr e
  | .filter => do
    let _ ← next?
    let name ← identifier "filter name"
    return .filter e name (← arguments? expr)

/-- An expression that no operator takes apart. -/
def primary (expr : Parser Expr) : Parser Expr := do
  let t ← next "expression"
  match t.kind with
  | .str content => pure (.str content)
  | .int i => pure (.int i)
  | .float x => pure (.lit (.float x))
  | .keyword .true => pure (.lit (.bool true))
  | .keyword .false => pure (.lit (.bool false))
  | .keyword .none => pure (.lit .null)
  | .ident name => pure (.var name)
  | .symbol .openParen => do
    let e ← expr
    let _ ← expect (isSymbol .closeParen) "`)`"
    return e
  | .symbol .openBracket => return .list (← commaList .closeBracket "`,` or `]`" expr)
  | .symbol .openBrace =>
    return .dict (← commaList .closeBrace s!"`,` or `{Symbol.closeBrace.spelling}`" do
      let key ← expr
      let _ ← expect (isSymbol .colon) "`:`"
      return (key, ← expr))
  | _ => unexpected t "expression"

/-- A primary with its suffixes. A suffix that is too deep stays where it is. -/
def postfixed (expr : Nat → Parser Expr) (n : Nat) : Parser Expr := do
  suffixes (return (← ahead).bind (suffix? ·.kind)) (fun s m e => suffixOf (expr m) s e) n
    (← primary (expr n))

/-- A value with an optional condition and an optional alternative. -/
def conditional (expr : Parser Expr) (operand : Parser Expr) : Parser Expr := do
  let value ← operand
  if ← eat (isWord "if") then
    let condition ← operand
    if ← eat (isWord "else") then return .choice value condition (some (← expr))
    else return .choice value condition none
  else return value

/-- The operators from `or` inwards; `expr` parses what stands inside brackets. -/
def operators (expr : Nat → Parser Expr) : Nat → Parser Expr :=
  leftAssoc orOp? <| leftAssoc andOp? <| comparisons expr <| leftAssoc concatOp? <|
    leftAssoc additiveOp? <| leftAssoc multiplicativeOp? <| prefixed <| postfixed expr

/-- Expressions with budgets up to a bound; a larger budget counts as the bound. -/
def parserUpTo : (bound budget : Nat) → Parser Expr
  | 0, _ => tooDeep
  | n + 1, m =>
    if m ≤ n then parserUpTo n m
    else conditional (parserUpTo n n) (operators (parserUpTo n) n)

/-- Parses an expression nested no deeper than the budget allows. -/
def parser (budget : Nat) : Parser Expr := parserUpTo budget budget

end Stencil.Expr
