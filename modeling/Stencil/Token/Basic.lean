import Stencil.Position

/-! The tokens that template text is cut into. -/
namespace Stencil

/-- Words that are no identifiers inside expressions. -/
inductive Keyword where
  | and
  | or
  | not
  | isIn
  | is
  | true
  | false
  | none
deriving DecidableEq

/-- Operators and punctuation of expressions. -/
inductive Symbol where
  | dot
  | comma
  | colon
  | pipe
  | tilde
  | assign
  | openParen
  | closeParen
  | openBracket
  | closeBracket
  | openBrace
  | closeBrace
  | plus
  | minus
  | star
  | slash
  | slashSlash
  | percent
  | equal
  | notEqual
  | less
  | greater
  | lessEqual
  | greaterEqual
deriving DecidableEq

/-- What a token is. -/
inductive Token.Kind where
  | text (content : String)
  | comment
  | printStart
  | printEnd
  | directiveStart
  | directiveEnd
  | keyword (word : Keyword)
  | symbol (sign : Symbol)
  | ident (name : String)
  | str (content : String)
  | int (value : Int64)
  | float (value : Float)

/-- A token with its text, the number of characters before it, and its place. -/
structure Token where
  kind : Token.Kind
  lexeme : String
  offset : Nat
  pos : Position

/-- The name that an identifier is. -/
def Token.name? (t : Token) : Option String :=
  match t.kind with
  | .ident name => some name
  | _ => none

/-- The spelling of a keyword in messages. -/
def Keyword.spelling : Keyword → String
  | .and => "and"
  | .or => "or"
  | .not => "not"
  | .isIn => "in"
  | .is => "is"
  | .true => "true"
  | .false => "false"
  | .none => "none"

/-- How a symbol is written. -/
def Symbol.spelling : Symbol → String
  | .dot => "."
  | .comma => ","
  | .colon => ":"
  | .pipe => "|"
  | .tilde => "~"
  | .assign => "="
  | .openParen => "("
  | .closeParen => ")"
  | .openBracket => "["
  | .closeBracket => "]"
  | .openBrace => String.singleton '{'
  | .closeBrace => String.singleton '}'
  | .plus => "+"
  | .minus => "-"
  | .star => "*"
  | .slash => "/"
  | .slashSlash => "//"
  | .percent => "%"
  | .equal => "=="
  | .notEqual => "!="
  | .less => "<"
  | .greater => ">"
  | .lessEqual => "<="
  | .greaterEqual => ">="

/-- How messages name a kind of token. -/
def Token.Kind.describe : Token.Kind → String
  | .text _ => "text"
  | .comment => "comment"
  | .printStart => "start of interpolation"
  | .printEnd => "end of interpolation"
  | .directiveStart => "start of directive"
  | .directiveEnd => "end of directive"
  | .keyword k => s!"`{k.spelling}`"
  | .symbol s => s!"`{s.spelling}`"
  | .ident name => s!"identifier `{name}`"
  | .str _ => "string literal"
  | .int _ | .float _ => "number"

end Stencil
